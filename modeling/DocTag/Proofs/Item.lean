import DocTag.Proofs.Sections
/-!
A comment as a sequence of items.

An item is what one step of a conversion finds: a character that is copied, or
a tag with its argument.  The items of a comment are read off its text alone;
what was written before decides nothing.  A conversion is then the scan of the
text, followed by the writing of the items in their order.
-/

namespace DocTag

structure Tag where
  introducer : Char
  name : Text
  argument : Argument
  tagged : isIntroducer introducer = true
deriving DecidableEq

inductive Item where
  | copied (character : Char)
  | tag (used : Tag)
deriving DecidableEq

namespace Item

/-- The first item of a text and the text left behind it.  The blanks behind a
line break belong to the line break. -/
def next? : Text → Option (Except AttributeFault (Item × Text))
  | [] => none
  | character :: behind =>
      if tagged : isIntroducer character = true then
        let name := Text.word behind
        some <| ((Rule.ofName name).read
          (Text.behindWord behind).skipBlanks).map fun (argument, rest) =>
            (.tag ⟨character, name, argument, tagged⟩, rest)
      else if character = '\n' then
        some (.ok (.copied character, Text.skipBlanks behind))
      else
        some (.ok (.copied character, behind))

theorem next?_tag {introducer : Char} (behind : Text)
    (tagged : isIntroducer introducer = true) :
    next? (introducer :: behind) =
      some (((Rule.ofName behind.word).read behind.behindWord.skipBlanks).map
        fun (argument, rest) =>
          (.tag ⟨introducer, behind.word, argument, tagged⟩, rest)) := by
  rw [next?, dif_pos tagged]

theorem next?_copied {character : Char} (behind : Text)
    (plain : isIntroducer character = false) :
    next? (character :: behind) =
      some (.ok (.copied character,
        if character = '\n' then behind.skipBlanks else behind)) := by
  rw [next?, dif_neg (by simp [plain])]
  split <;> rfl

theorem next?_eq_none_iff {text : Text} : next? text = none ↔ text = [] := by
  cases text with
  | nil => exact iff_of_true rfl rfl
  | cons character behind =>
      refine iff_of_false ?_ (List.cons_ne_nil character behind)
      cases tagged : isIntroducer character with
      | true => rw [next?_tag behind tagged]; exact Option.some_ne_none _
      | false => rw [next?_copied behind tagged]; exact Option.some_ne_none _

/-- What an item can be, and what it leaves. -/
theorem next?_eq_ok_iff {text rest : Text} {item : Item} :
    next? text = some (.ok (item, rest)) ↔
      (∃ (character : Char) (behind : Text), text = character :: behind ∧
        isIntroducer character = false ∧ item = .copied character ∧
        rest = if character = '\n' then behind.skipBlanks else behind) ∨
      ∃ (introducer : Char) (behind : Text) (argument : Argument)
        (tagged : isIntroducer introducer = true),
        text = introducer :: behind ∧
        (Rule.ofName behind.word).read behind.behindWord.skipBlanks =
          .ok (argument, rest) ∧
        item = .tag ⟨introducer, behind.word, argument, tagged⟩ := by
  constructor
  · intro next
    match text with
    | [] => cases next
    | character :: behind =>
        cases tagged : isIntroducer character with
        | false =>
            rw [next?_copied behind tagged] at next
            cases next
            exact .inl ⟨character, behind, rfl, tagged, rfl, rfl⟩
        | true =>
            rw [next?_tag behind tagged] at next
            cases read : (Rule.ofName (Text.word behind)).read
                (Text.behindWord behind).skipBlanks with
            | error fault => rw [read] at next; cases next
            | ok reading =>
                rw [read] at next
                cases next
                exact .inr ⟨character, behind, _, tagged, rfl, read, rfl⟩
  · rintro (⟨character, behind, rfl, plain, rfl, rfl⟩ |
      ⟨introducer, behind, argument, tagged, rfl, read, rfl⟩)
    · exact next?_copied behind plain
    · rw [next?_tag behind tagged, read]
      rfl

theorem next?_eq_error_iff {text : Text} {fault : AttributeFault} :
    next? text = some (.error fault) ↔
      ∃ (introducer : Char) (behind : Text), text = introducer :: behind ∧
        isIntroducer introducer = true ∧
        (Rule.ofName behind.word).read behind.behindWord.skipBlanks =
          .error fault := by
  constructor
  · intro next
    match text with
    | [] => cases next
    | character :: behind =>
        cases tagged : isIntroducer character with
        | false =>
            rw [next?_copied behind tagged] at next
            cases next
        | true =>
            rw [next?_tag behind tagged] at next
            cases read : (Rule.ofName (Text.word behind)).read
                (Text.behindWord behind).skipBlanks with
            | ok reading => rw [read] at next; cases next
            | error lacking =>
                rw [read] at next
                cases next
                exact ⟨character, behind, rfl, tagged, read⟩
  · rintro ⟨introducer, behind, rfl, tagged, read⟩
    rw [next?_tag behind tagged, read]
    rfl

theorem next?_suffix {text rest : Text} {item : Item}
    (next : next? text = some (.ok (item, rest))) :
    ∃ (character : Char) (behind : Text),
      text = character :: behind ∧ rest <:+ behind := by
  rcases next?_eq_ok_iff.mp next with
    ⟨character, behind, rfl, -, -, rfl⟩ |
    ⟨introducer, behind, argument, -, rfl, read, -⟩
  · refine ⟨character, behind, rfl, ?_⟩
    split
    · exact Text.skipBlanks_suffix behind
    · exact List.suffix_refl behind
  · exact ⟨introducer, behind, rfl, (Rule.read_suffix read).trans
      ((Text.behindWord behind).skipBlanks_suffix.trans
        (Text.behindWord_suffix behind))⟩

theorem length_lt_of_next? {text rest : Text} {item : Item}
    (next : next? text = some (.ok (item, rest))) :
    rest.length < text.length := by
  obtain ⟨character, behind, rfl, left⟩ := next?_suffix next
  exact Nat.lt_succ_of_le left.length_le

def scan (text : Text) : Except AttributeFault (List Item) :=
  match next : next? text with
  | none => .ok []
  | some (.error fault) => .error fault
  | some (.ok (item, rest)) =>
      have := length_lt_of_next? next
      (scan rest).map (item :: ·)
termination_by text.length

theorem scan_nil : scan [] = .ok [] := by
  rw [scan]
  rfl

theorem scan_of_next?_error {text : Text} {fault : AttributeFault}
    (next : next? text = some (.error fault)) : scan text = .error fault := by
  rw [scan]
  split <;> simp_all

theorem scan_of_next?_ok {text rest : Text} {item : Item}
    (next : next? text = some (.ok (item, rest))) :
    scan text = (scan rest).map (item :: ·) := by
  rw [scan]
  split <;> simp_all

@[elab_as_elim]
theorem scan_ok_induction {motive : Text → List Item → Prop}
    {text : Text} {items : List Item} (scanned : scan text = .ok items)
    (atEnd : motive [] [])
    (atItem : ∀ (text : Text) (item : Item) (rest : Text) (items : List Item),
      next? text = some (.ok (item, rest)) → motive rest items →
        motive text (item :: items)) :
    motive text items := by
  induction text using scan.induct generalizing items with
  | case1 text noItem =>
      rw [next?_eq_none_iff] at noItem
      rw [noItem, scan_nil] at scanned
      cases scanned
      rw [noItem]
      exact atEnd
  | case2 text fault failed =>
      rw [scan_of_next?_error failed] at scanned
      cases scanned
  | case3 text item rest found shorter ih =>
      rw [scan_of_next?_ok found] at scanned
      cases further : scan rest with
      | error fault => rw [further] at scanned; cases scanned
      | ok more =>
          rw [further] at scanned
          cases scanned
          exact atItem text item rest more found (ih further)

def asked? : Item → Option Section
  | .copied _ => none
  | .tag used => (Rule.ofName used.name).opens?

def fragment? (style : ReferenceStyle) : Item → Option Text
  | .copied character => some [character]
  | .tag used =>
      (Rule.ofName used.name).fragment? ⟨[used.introducer], used.name⟩ style
        used.argument

theorem ofFragment?_fragment? {style : ReferenceStyle} {item : Item}
    {fragment : Text} (written : item.fragment? style = some fragment) :
    Section.ofFragment? fragment = none := by
  cases item with
  | copied character =>
      cases written
      exact Section.ofFragment?_singleton character
  | tag used => exact Rule.ofFragment?_fragment? used.tagged rfl written

end Item

def Output.write (style : ReferenceStyle) (output : Output) (item : Item) :
    Output :=
  let opened := output.opening item.asked?
  (item.fragment? style).elim opened opened.emit

theorem Output.grows_write (output : Output) (style : ReferenceStyle)
    (item : Item) : output.Grows item.asked? (output.write style item) := by
  unfold write
  cases written : item.fragment? style with
  | none => exact .opened
  | some fragment => exact .wrote (Item.ofFragment?_fragment? written)

namespace Session

theorem convertNext?_eq_none_iff {session : Session} {style : ReferenceStyle} :
    session.convertNext? style = none ↔ session.cursor.ahead = [] := by
  obtain ⟨⟨passed, ahead⟩, output⟩ := session
  cases ahead with
  | nil => exact iff_of_true rfl rfl
  | cons character behind =>
      refine iff_of_false ?_ (List.cons_ne_nil character behind)
      simp only [convertNext?, Cursor.advance, Cursor.peek?, List.head?_cons]
      split
      · exact Option.some_ne_none _
      · split <;> exact Option.some_ne_none _

theorem view_readArgument_behind_tag (cursor : Cursor) :
    Cursor.view (cursor.readWord.2.skipBlanks.readArgument
        (Rule.ofName cursor.ahead.word)) =
      (Rule.ofName cursor.ahead.word).read
        cursor.ahead.behindWord.skipBlanks := by
  rw [Cursor.view_readArgument, Cursor.ahead_skipBlanks, Cursor.ahead_readWord]

private theorem dispatch_of_read_ok (session : Session) {introducer : Char}
    {argument : Argument} {rest : Text} (style : ReferenceStyle)
    (tagged : isIntroducer introducer = true)
    (read : (Rule.ofName session.cursor.ahead.word).read
      session.cursor.ahead.behindWord.skipBlanks = .ok (argument, rest)) :
    ∃ after : Cursor,
      session.dispatch [introducer] style =
        (.ok (), ⟨after, session.output.write style
          (.tag ⟨introducer, session.cursor.ahead.word, argument, tagged⟩)⟩) ∧
      after.ahead = rest := by
  rw [← view_readArgument_behind_tag] at read
  obtain ⟨after, reading, left⟩ := Cursor.eq_of_view_eq_ok read
  refine ⟨after, ?_, left⟩
  unfold dispatch applyRule
  simp only [Cursor.text_readWord, reading]
  rfl

private theorem dispatch_of_read_error (session : Session) (introducer : Char)
    {fault : AttributeFault} (style : ReferenceStyle)
    (read : (Rule.ofName session.cursor.ahead.word).read
      session.cursor.ahead.behindWord.skipBlanks = .error fault) :
    ∃ stopped : Session,
      session.dispatch [introducer] style = (.error fault, stopped) := by
  rw [← view_readArgument_behind_tag] at read
  obtain ⟨stopped, reading⟩ := Cursor.eq_of_view_eq_error read
  unfold dispatch applyRule
  simp only [Cursor.text_readWord, reading]
  exact ⟨_, rfl⟩

theorem convertNext?_of_tag {session : Session} (style : ReferenceStyle)
    {introducer : Char} {behind : Text}
    (ahead : session.cursor.ahead = introducer :: behind)
    (tagged : isIntroducer introducer = true) :
    session.convertNext? style =
      some (dispatch ⟨session.cursor.forward 1, session.output⟩ [introducer]
        style) := by
  unfold convertNext?
  rw [Cursor.advance, Cursor.peek?, ahead, List.head?_cons]
  exact if_pos tagged

theorem convertNext?_of_plain {session : Session} (style : ReferenceStyle)
    {character : Char} {behind : Text}
    (ahead : session.cursor.ahead = character :: behind)
    (plain : isIntroducer character = false) :
    ∃ after : Cursor,
      session.convertNext? style =
        some (.ok (), ⟨after, session.output.emit [character]⟩) ∧
      after.ahead =
        if character = '\n' then behind.skipBlanks else behind := by
  have passed := Cursor.ahead_forward_one ahead
  unfold convertNext?
  rw [Cursor.advance, Cursor.peek?, ahead, List.head?_cons]
  simp only [plain, Bool.false_eq_true, if_false]
  by_cases line : character = '\n'
  · refine ⟨(session.cursor.forward 1).skipBlanks, if_pos line, ?_⟩
    rw [Cursor.ahead_skipBlanks, passed, if_pos line]
  · exact ⟨session.cursor.forward 1, if_neg line, passed.trans (if_neg line).symm⟩

theorem convertNext?_of_next?_ok {session : Session} {item : Item}
    {rest : Text} (style : ReferenceStyle)
    (next : Item.next? session.cursor.ahead = some (.ok (item, rest))) :
    ∃ after : Cursor, session.convertNext? style =
        some (.ok (), ⟨after, session.output.write style item⟩) ∧
      after.ahead = rest := by
  rcases Item.next?_eq_ok_iff.mp next with
    ⟨character, behind, ahead, plain, rfl, rfl⟩ |
    ⟨introducer, behind, argument, tagged, ahead, read, rfl⟩
  · exact convertNext?_of_plain style ahead plain
  · have passed := Cursor.ahead_forward_one ahead
    rw [← passed] at read
    obtain ⟨after, dispatched, left⟩ := dispatch_of_read_ok
      ⟨session.cursor.forward 1, session.output⟩ style tagged read
    simp only [passed] at dispatched
    exact ⟨after, (convertNext?_of_tag style ahead tagged).trans
      (congrArg some dispatched), left⟩

theorem convertNext?_of_next?_error {session : Session}
    {fault : AttributeFault} (style : ReferenceStyle)
    (next : Item.next? session.cursor.ahead = some (.error fault)) :
    ∃ stopped : Session,
      session.convertNext? style = some (.error fault, stopped) := by
  obtain ⟨introducer, behind, ahead, tagged, read⟩ :=
    Item.next?_eq_error_iff.mp next
  rw [← Cursor.ahead_forward_one ahead] at read
  obtain ⟨stopped, dispatched⟩ := dispatch_of_read_error
    ⟨session.cursor.forward 1, session.output⟩ introducer style read
  exact ⟨stopped, (convertNext?_of_tag style ahead tagged).trans
    (congrArg some dispatched)⟩

theorem drain_of_convertNext?_eq_none {session : Session}
    {style : ReferenceStyle} (taken : session.convertNext? style = none) :
    session.drain style = .ok session.output := by
  rw [drain]
  split <;> simp_all

theorem drain_of_convertNext?_error {session stopped : Session}
    {style : ReferenceStyle} {fault : AttributeFault}
    (taken : session.convertNext? style = some (.error fault, stopped)) :
    session.drain style = .error fault := by
  rw [drain]
  split <;> simp_all

theorem drain_of_convertNext?_ok {session next : Session}
    {style : ReferenceStyle}
    (taken : session.convertNext? style = some (.ok (), next)) :
    session.drain style = next.drain style := by
  rw [drain]
  split <;> simp_all

/-- The items of the text ahead are scanned, and written in their order. -/
theorem drain_eq_map_scan (session : Session) (style : ReferenceStyle) :
    session.drain style =
      (Item.scan session.cursor.ahead).map fun items =>
        items.foldl (Output.write style) session.output := by
  generalize remaining : session.cursor.ahead = text
  induction text using Item.scan.induct generalizing session with
  | case1 text atEnd =>
      rw [Item.next?_eq_none_iff] at atEnd
      subst atEnd
      rw [drain_of_convertNext?_eq_none
        (convertNext?_eq_none_iff.mpr remaining), Item.scan_nil]
      rfl
  | case2 text fault next =>
      rw [← remaining] at next
      obtain ⟨stopped, taken⟩ := convertNext?_of_next?_error style next
      rw [drain_of_convertNext?_error taken, ← remaining,
        Item.scan_of_next?_error next]
      rfl
  | case3 text item rest next shorter ih =>
      rw [← remaining] at next
      obtain ⟨after, taken, left⟩ := convertNext?_of_next?_ok style next
      rw [drain_of_convertNext?_ok taken, ih _ left, ← remaining,
        Item.scan_of_next?_ok next]
      cases Item.scan rest <;> rfl

end Session
end DocTag
