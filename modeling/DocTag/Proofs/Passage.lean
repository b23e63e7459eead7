import DocTag.Proofs.Reading
import DocTag.Conversion
/-!
What the readers of a comment pass.

Every reader moves its cursor forward over the same text, so what lies between
the place where it started and the place where it stopped is the front of the
text that was ahead.  This holds of a reading that fails as well: one that
misses an opening bracket passes one character, and one that misses a closing
bracket passes all that is left.
-/

namespace DocTag

theorem Text.readAttributes_append_rest {text attributes rest : Text}
    (read : text.readAttributes = .ok (attributes, rest)) :
    '[' :: attributes ++ [']'] ++ rest = text := by
  unfold readAttributes at read
  split at read
  · next inside =>
      split at read
      · cases read
      · next bracket closed stopped =>
          cases read
          have closing := List.head?_dropWhile_not (· != ']') inside
          rw [stopped] at closing
          obtain rfl : bracket = ']' := by simpa using closing
          have whole := List.takeWhile_append_dropWhile
            (p := (· != ']')) (l := inside)
          rw [stopped] at whole
          simpa using whole
  · cases read

namespace Cursor

/-- A cursor on the same text that has only moved forward. -/
def Precedes (cursor later : Cursor) : Prop :=
  ∃ count : Nat, later = cursor.forward count

theorem forward_forward (cursor : Cursor) (first second : Nat) :
    (cursor.forward first).forward second = cursor.forward (first + second) := by
  simp [forward, List.take_add]

private theorem forward_eq_of_length_le {cursor : Cursor} {count : Nat}
    (beyond : cursor.ahead.length ≤ count) :
    cursor.forward count = cursor.forward cursor.ahead.length := by
  simp [forward, List.take_of_length_le beyond, List.drop_of_length_le beyond]

theorem length_text (cursor : Cursor) :
    cursor.text.length = cursor.position + cursor.ahead.length := by
  simp [text, position]

private theorem drop_position_text (cursor : Cursor) :
    cursor.text.drop cursor.position = cursor.ahead :=
  List.drop_left' (List.length_reverse)

theorem position_eq_length_text {cursor : Cursor} (atEnd : cursor.ahead = []) :
    cursor.position = cursor.text.length := by
  rw [length_text, atEnd, List.length_nil, Nat.add_zero]

theorem extract_forward (cursor : Cursor) (count : Nat) :
    cursor.text.extract cursor.position (cursor.forward count).position =
      cursor.ahead.take count := by
  rw [List.extract_eq_take_drop, drop_position_text, position_forward,
    Nat.add_sub_cancel_left, ← List.take_eq_take_min]

namespace Precedes

variable {cursor later last : Cursor}

theorem refl (cursor : Cursor) : cursor.Precedes cursor :=
  ⟨0, rfl⟩

theorem trans (first : cursor.Precedes later) (second : later.Precedes last) :
    cursor.Precedes last := by
  obtain ⟨count, rfl⟩ := first
  obtain ⟨more, rfl⟩ := second
  exact ⟨count + more, forward_forward cursor count more⟩

theorem text_eq (precedes : cursor.Precedes later) :
    later.text = cursor.text := by
  obtain ⟨count, rfl⟩ := precedes
  exact text_forward cursor count

theorem position_le (precedes : cursor.Precedes later) :
    cursor.position ≤ later.position := by
  obtain ⟨count, rfl⟩ := precedes
  rw [position_forward]
  exact Nat.le_add_right _ _

theorem extract_append_ahead (precedes : cursor.Precedes later) :
    cursor.text.extract cursor.position later.position ++ later.ahead =
      cursor.ahead := by
  obtain ⟨count, rfl⟩ := precedes
  rw [extract_forward, ahead_forward, List.take_append_drop]

end Precedes

theorem extract_takeWhile (cursor : Cursor) (holds : Char → Bool) :
    cursor.text.extract cursor.position (cursor.takeWhile holds).2.position =
      (cursor.takeWhile holds).1 := by
  have run : (cursor.ahead.takeWhile holds ++
      cursor.ahead.dropWhile holds).take
        (cursor.ahead.takeWhile holds).length =
      cursor.ahead.takeWhile holds := List.take_left
  rw [List.takeWhile_append_dropWhile] at run
  exact (extract_forward cursor _).trans run

theorem precedes_readWord (cursor : Cursor) :
    cursor.Precedes cursor.readWord.2 :=
  ⟨_, rfl⟩

theorem precedes_skipBlanks (cursor : Cursor) :
    cursor.Precedes cursor.skipBlanks :=
  ⟨_, rfl⟩

/-- Where the reading of an attribute list stops, whether it fails or not. -/
theorem readAttributes_eq_forward (cursor : Cursor) :
    cursor.readAttributes =
      match cursor.ahead.readAttributes with
      | .ok (attributes, _) =>
          (.ok attributes, cursor.forward (attributes.length + 2))
      | .error .openingMissing => (.error .openingMissing, cursor.forward 1)
      | .error .closingMissing =>
          (.error .closingMissing, cursor.forward cursor.ahead.length) := by
  obtain ⟨passed, ahead⟩ := cursor
  match ahead with
  | [] => rfl
  | character :: inside =>
      by_cases opening : character = '['
      · subst opening
        have behind := ahead_takeWhile
          ((Cursor.mk passed ('[' :: inside)).forward 1) (· != ']')
        simp only [ahead_forward, List.drop_succ_cons, List.drop_zero]
          at behind
        simp only [readAttributes, advance, peek?, List.head?_cons, behind,
          Text.readAttributes]
        cases stopped : inside.dropWhile (· != ']') with
        | nil =>
            have whole := List.takeWhile_append_dropWhile
              (p := (· != ']')) (l := inside)
            rw [stopped, List.append_nil] at whole
            simp only [List.head?_nil, takeWhile, forward_forward, ahead_forward,
              List.drop_succ_cons, List.drop_zero, whole, List.length_cons]
            apply congrArg (Prod.mk _)
            apply forward_eq_of_length_le
            simp
        | cons bracket rest =>
            simp only [List.head?_cons, takeWhile, forward_forward,
              ahead_forward, List.drop_succ_cons, List.drop_zero]
            rw [Nat.add_comm 1]
      · simp [readAttributes, advance, peek?, Text.readAttributes, opening]

/-- An attribute list is what is passed, without the brackets around it. -/
theorem extract_readAttributes {cursor closed : Cursor} {attributes : Text}
    (read : cursor.readAttributes = (.ok attributes, closed)) :
    cursor.position + 2 ≤ closed.position ∧
      cursor.text.extract (cursor.position + 1) (closed.position - 1) =
        attributes := by
  rw [readAttributes_eq_forward] at read
  split at read
  · next found rest listed =>
      cases read
      have whole := Text.readAttributes_append_rest listed
      have bound : cursor.ahead.length = attributes.length + 2 + rest.length := by
        rw [← whole]
        simp only [List.length_append, List.length_cons, List.length_nil]
      have stop : (cursor.forward (attributes.length + 2)).position =
          cursor.position + (attributes.length + 2) := by
        rw [position_forward, Nat.min_eq_left (by omega)]
      refine ⟨by omega, ?_⟩
      have inside : cursor.text.drop (cursor.position + 1) =
          attributes ++ [']'] ++ rest := by
        rw [← List.drop_drop, drop_position_text, ← whole]
        rfl
      have length : cursor.position + (attributes.length + 2) - 1 -
          (cursor.position + 1) = attributes.length := by
        omega
      rw [List.extract_eq_take_drop, stop, inside, length, List.append_assoc,
        List.take_left]
  · cases read
  · cases read

theorem precedes_readAttributes (cursor : Cursor) :
    cursor.Precedes cursor.readAttributes.2 := by
  rw [readAttributes_eq_forward]
  split
  · exact ⟨_, rfl⟩
  · exact ⟨_, rfl⟩
  · exact ⟨_, rfl⟩

theorem precedes_readParameter (cursor : Cursor) :
    cursor.Precedes cursor.readParameter.2 := by
  have start := cursor.precedes_readWord
  unfold readParameter
  split
  · next stopped named =>
      rw [named] at start
      have list := start.trans stopped.precedes_readAttributes
      split
      · next listed =>
          rw [listed] at list
          exact list
      · next attributes closed listed =>
          rw [listed] at list
          exact (list.trans closed.precedes_skipBlanks).trans
            closed.skipBlanks.precedes_readWord
  · next named =>
      rw [named] at start
      exact start

theorem precedes_readArgument (cursor : Cursor) (rule : Rule) :
    cursor.Precedes (cursor.readArgument rule).2 := by
  cases rule with
  | parameter => exact cursor.precedes_readParameter
  | returnValue | span | reference | related => exact cursor.precedes_readWord
  | returned | lead | silent | verbatim => exact .refl cursor

end Cursor

namespace Session

theorem precedes_applyRule (session : Session) (rule : Rule)
    (mention : Mention) (style : ReferenceStyle) :
    session.cursor.Precedes
      (session.applyRule rule mention style).2.cursor := by
  rw [cursor_applyRule]
  exact session.cursor.precedes_readArgument rule

theorem precedes_dispatch (session : Session) (introducer : Text)
    (style : ReferenceStyle) :
    session.cursor.Precedes (session.dispatch introducer style).2.cursor :=
  (session.cursor.precedes_readWord.trans
    (Cursor.precedes_skipBlanks _)).trans (precedes_applyRule _ _ _ _)

theorem precedes_convertNext? {session next : Session}
    {style : ReferenceStyle} {outcome : Except AttributeFault Unit}
    (taken : session.convertNext? style = some (outcome, next)) :
    session.cursor.Precedes next.cursor := by
  have passed : session.cursor.Precedes (session.cursor.forward 1) := ⟨1, rfl⟩
  simp only [convertNext?, Cursor.advance] at taken
  split at taken
  · cases taken
  · next character after advanced =>
      obtain rfl := (Prod.mk.inj advanced).2
      split at taken
      · have dispatched := passed.trans
          (precedes_dispatch ⟨session.cursor.forward 1, session.output⟩
            [character] style)
        rw [Option.some_inj.mp taken] at dispatched
        exact dispatched
      · split at taken
        · cases taken
          exact passed.trans (Cursor.precedes_skipBlanks _)
        · cases taken
          exact passed

end Session
end DocTag
