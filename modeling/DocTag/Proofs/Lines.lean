import DocTag.Proofs.Run
import Mathlib.Data.Finset.Lattice.Lemmas
/-!
Comments put together line by line.

Words, runs of blanks and attribute lists all look ahead, but none looks past
the character that stops it.  So every item of a text stays what it is when
more text follows, except the last one; and the last one stays what it is when
a line break follows that it cannot take in.  The items of two such lines are
then the items of the one, the line break, and the items of the other, and the
headings that the first line has written are left out in the second.
-/

namespace DocTag

/-- A line break behind the item is not taken in by it. -/
def Item.IsClosed : Item → Prop
  | .copied character => character ≠ '\n'
  | .tag used => used.argument.text ≠ []

/-- The next step copies the last character of the text, which is no line
break, or it dispatches a tag whose argument ends with a word at the end of
the text. -/
def Session.ClosesLine (session : Session) : Prop :=
  (∃ character : Char, session.cursor.ahead = [character] ∧
      isIntroducer character = false ∧ character ≠ '\n') ∨
    ∃ (introducer : Char) (behind : Text),
      session.cursor.ahead = introducer :: behind ∧
        isIntroducer introducer = true ∧
        ∃ (argument : Argument) (after : Cursor),
          (session.cursor.forward 1).readWord.2.skipBlanks.readArgument
              (Rule.ofName (session.cursor.forward 1).readWord.1) =
            (.ok argument, after) ∧
          argument.text ≠ [] ∧ after.ahead = []

/-- The fragments without the headings of some sections and the blank lines
behind them. -/
def withoutSections (omitted : Section → Bool) : List Text → List Text
  | fragment :: next :: rest =>
      if (Section.ofFragment? fragment).any omitted then
        withoutSections omitted rest
      else fragment :: withoutSections omitted (next :: rest)
  | short => short

def Dispatches (style : ReferenceStyle) (comment : Text) (opened : Section) :
    Prop :=
  ∃ (passed : List Session) (outcome : Except AttributeFault Unit)
    (session : Session),
    Session.Run style (Session.started comment) passed outcome session ∧
      ∃ earlier ∈ passed, earlier.Opens opened

private theorem Rule.text_of_read_nil {rule : Rule} {argument : Argument}
    {rest : Text} (read : rule.read [] = .ok (argument, rest)) :
    argument.text = [] := by
  cases rule with
  | parameter =>
      change Text.readParameter [] = _ at read
      rw [Text.readParameter_of_word_eq_nil rfl] at read
      cases read
  | returnValue | span | reference | related =>
      cases read
      rfl
  | returned | lead | silent | verbatim =>
      cases read
      rfl

/-- An item stays the same in front of more text, when it leaves some text
itself or is closed against what follows. -/
theorem Item.next?_append {text rest tail : Text} {item : Item}
    (next : Item.next? text = some (.ok (item, rest)))
    (stops : rest ≠ [] ∨ item.IsClosed ∧ tail.StopsWord) :
    Item.next? (text ++ tail) = some (.ok (item, rest ++ tail)) := by
  rcases next?_eq_ok_iff.mp next with
    ⟨character, behind, rfl, plain, rfl, rfl⟩ |
    ⟨introducer, behind, argument, tagged, rfl, read, rfl⟩
  · rw [List.cons_append, next?_copied (behind ++ tail) plain]
    by_cases line : character = '\n'
    · rw [if_pos line] at stops ⊢
      have left : Text.skipBlanks behind ≠ [] := by
        rcases stops with left | ⟨closed, -⟩
        · exact left
        · exact absurd line closed
      rw [if_pos line, Text.skipBlanks_append tail left]
    · rw [if_neg line, if_neg line]
  · have isArgument : (Text.behindWord behind).skipBlanks ≠ [] := by
      intro nothing
      rw [nothing] at read
      rcases stops with left | ⟨closed, -⟩
      · exact left (List.suffix_nil.mp (Rule.read_suffix read))
      · exact closed (Rule.text_of_read_nil read)
    have isBehind : Text.behindWord behind ≠ [] := by
      intro nothing
      rw [nothing] at isArgument
      exact isArgument rfl
    obtain ⟨word, left⟩ := Text.word_append behind tail (.inl isBehind)
    rw [List.cons_append, next?_tag (behind ++ tail) tagged]
    rw [word, left, Text.skipBlanks_append tail isArgument,
      Rule.read_append read stops]
    rfl

/-- The items that a run has taken are the same in front of more text, as long
as the run has left some. -/
theorem Session.Run.scan_append {style : ReferenceStyle}
    {start session : Session} {passed : List Session}
    (run : Session.Run style start passed (.ok ()) session) :
    ∃ items : List Item, ∀ tail : Text,
      session.cursor.ahead ≠ [] ∨ tail = [] →
        Item.scan (start.cursor.ahead ++ tail) =
          (Item.scan (session.cursor.ahead ++ tail)).map (items ++ ·) := by
  refine run.ok_induction ?_ ?_
  · refine ⟨[], ?_⟩
    intro tail _
    cases Item.scan (start.cursor.ahead ++ tail) <;> rfl
  · rintro passed session next taken ⟨items, scanned⟩
    obtain ⟨item, found, -⟩ := next?_of_convertNext?_ok taken
    refine ⟨items ++ [item], ?_⟩
    intro tail stops
    have left : session.cursor.ahead ≠ [] := by
      intro nothing
      rw [nothing] at found
      cases found
    have more : Item.next? (session.cursor.ahead ++ tail) =
        some (.ok (item, next.cursor.ahead ++ tail)) := by
      rcases stops with kept | rfl
      · exact Item.next?_append found (.inl kept)
      · rw [List.append_nil, List.append_nil]
        exact found
    rw [scanned tail (.inl left), Item.scan_of_next?_ok more]
    cases Item.scan (next.cursor.ahead ++ tail) <;> simp [Except.map]

private theorem Session.ClosesLine.next? {session : Session}
    (closes : session.ClosesLine) :
    ∃ item : Item,
      Item.next? session.cursor.ahead = some (.ok (item, [])) ∧
        item.IsClosed := by
  rcases closes with ⟨character, ahead, plain, other⟩ |
    ⟨introducer, behind, ahead, tagged, argument, after, reading, word, atEnd⟩
  · refine ⟨.copied character, ?_, other⟩
    rw [ahead, Item.next?_copied [] plain, if_neg other]
  · refine ⟨.tag ⟨introducer, Text.word behind, argument, tagged⟩, ?_, word⟩
    have passed := Cursor.ahead_forward_one ahead
    have read := Cursor.view_readArgument
      (session.cursor.forward 1).readWord.2.skipBlanks
      (Rule.ofName (session.cursor.forward 1).readWord.1)
    rw [reading, Cursor.ahead_skipBlanks, Cursor.ahead_readWord,
      Cursor.text_readWord, passed] at read
    rw [ahead, Item.next?_tag behind tagged, ← read]
    simp only [Cursor.view, Except.map, atEnd]

theorem Item.scan_newline (below : Text) :
    Item.scan ('\n' :: below) =
      (Item.scan below.skipBlanks).map (.copied '\n' :: ·) := by
  have next : Item.next? ('\n' :: below) = _ :=
    Item.next?_copied below (by decide)
  rw [if_pos rfl] at next
  exact Item.scan_of_next?_ok next

theorem Session.Run.scan_append_line {style : ReferenceStyle} {above : Text}
    {passed : List Session} {last : Session}
    (run : Session.Run style (Session.started above) passed (.ok ()) last)
    (closes : last.ClosesLine) :
    ∃ items : List Item, Item.scan above.skipBlanks = .ok items ∧
      ∀ below : Text, Item.scan (above ++ '\n' :: below).skipBlanks =
        (Item.scan below.skipBlanks).map fun more =>
          items ++ .copied '\n' :: more := by
  obtain ⟨items, scanned⟩ := run.scan_append
  obtain ⟨item, next, closed⟩ := closes.next?
  rw [Session.ahead_started] at scanned
  have left : last.cursor.ahead ≠ [] := by
    intro nothing
    rw [nothing] at next
    cases next
  refine ⟨items ++ [item], ?_, ?_⟩
  · have whole := scanned [] (.inr rfl)
    rw [List.append_nil, List.append_nil] at whole
    rw [whole, Item.scan_of_next?_ok next, Item.scan_nil]
    rfl
  · intro below
    have starts : above.skipBlanks ≠ [] := by
      intro nothing
      have suffix := run.ahead_suffix
      rw [Session.ahead_started, nothing] at suffix
      exact left (List.suffix_nil.mp suffix)
    have stops : Text.StopsWord ('\n' :: below) := by
      rintro character ⟨⟩
      decide
    have more := Item.next?_append next (.inr ⟨closed, stops⟩)
    rw [Text.skipBlanks_append _ starts, scanned _ (.inl left),
      Item.scan_of_next?_ok more, List.nil_append, Item.scan_newline]
    cases Item.scan below.skipBlanks <;> simp [Except.map]

/-! ### Sections left out -/

private theorem withoutSections_cons_of_kept {omitted : Section → Bool}
    {fragment : Text} (rest : List Text)
    (kept : (Section.ofFragment? fragment).any omitted = false) :
    withoutSections omitted (fragment :: rest) =
      fragment :: withoutSections omitted rest := by
  cases rest with
  | nil => rfl
  | cons next rest =>
      rw [withoutSections, kept]
      rfl

private theorem withoutSections_append_of_kept {omitted : Section → Bool}
    {front : List Text} (rest : List Text)
    (kept : ∀ fragment ∈ front,
      (Section.ofFragment? fragment).any omitted = false) :
    withoutSections omitted (front ++ rest) =
      front ++ withoutSections omitted rest := by
  induction front with
  | nil => rfl
  | cons fragment front ih =>
      have first := kept fragment List.mem_cons_self
      rw [List.cons_append, withoutSections_cons_of_kept _ first, ih]
      · rfl
      · intro other member
        exact kept other (List.mem_cons_of_mem fragment member)

private theorem withoutSections_eq_self {omitted : Section → Bool}
    {fragments : List Text}
    (kept : ∀ fragment ∈ fragments,
      (Section.ofFragment? fragment).any omitted = false) :
    withoutSections omitted fragments = fragments := by
  have same := withoutSections_append_of_kept [] kept
  rw [List.append_nil] at same
  exact same.trans (List.append_nil fragments)

private theorem withoutSections_announced (opened omitted : Finset Section)
    (asked? : Option Section) (rest : List Text) :
    withoutSections (fun asked => decide (asked ∈ omitted))
        (Section.announced opened asked? ++ rest) =
      Section.announced (opened ∪ omitted) asked? ++
        withoutSections (fun asked => decide (asked ∈ omitted)) rest := by
  cases asked? with
  | none => rfl
  | some asked =>
      by_cases isOpen : asked ∈ opened
      · have stillOpen := Finset.mem_union_left omitted isOpen
        rw [Section.announced_of_mem isOpen,
          Section.announced_of_mem stillOpen]
        rfl
      · by_cases isOmitted : asked ∈ omitted
        · have leftOut := Finset.mem_union_right opened isOmitted
          rw [Section.announced_of_not_mem isOpen,
            Section.announced_of_mem leftOut]
          simp [withoutSections, Section.ofFragment?_heading, isOmitted]
        · have isNew : asked ∉ opened ∪ omitted := by
            rw [Finset.mem_union]
            rintro (known | left)
            · exact isOpen known
            · exact isOmitted left
          rw [Section.announced_of_not_mem isOpen,
            Section.announced_of_not_mem isNew]
          apply withoutSections_append_of_kept
          intro fragment member
          rcases List.mem_pair.mp member with rfl | rfl
          · rw [Section.ofFragment?_heading]
            exact decide_eq_false isOmitted
          · rw [Section.ofFragment?_separator]
            rfl

/-- Leaving sections out of what is written is writing where they are open. -/
theorem withoutSections_written (style : ReferenceStyle)
    (opened omitted : Finset Section) (items : List Item) :
    withoutSections (fun asked => decide (asked ∈ omitted))
        (Item.written style opened items) =
      Item.written style (opened ∪ omitted) items := by
  induction items generalizing opened with
  | nil => rfl
  | cons item items ih =>
      have open_ : Section.openedWith (opened ∪ omitted) item.asked? =
          Section.openedWith opened item.asked? ∪ omitted := by
        cases item.asked? with
        | none => rfl
        | some asked => exact (Finset.insert_union asked opened omitted).symm
      unfold Item.written
      rw [List.append_assoc, withoutSections_announced,
        withoutSections_append_of_kept, ih, open_, List.append_assoc]
      intro fragment member
      rw [Item.ofFragment?_fragment? (Option.mem_toList.mp member)]
      rfl

/-! ### Conversions of two texts -/

private theorem Output.hasHeading_eq_decide (output : Output) :
    (fun opened : Section => output.hasHeading opened.heading) =
      fun opened => decide (opened ∈ output.sections.toFinset) := by
  funext opened
  rw [Bool.eq_iff_iff, Output.hasHeading_heading_iff, decide_eq_true_iff,
    List.mem_toFinset]

private theorem withoutSections_of_disjoint {style : ReferenceStyle}
    {above below : Text} {written output : Output}
    (first : (Session.started above).drain style = .ok written)
    (second : (Session.started below).drain style = .ok output)
    (disjoint : ∀ opened : Section,
      ¬ (Dispatches style above opened ∧ Dispatches style below opened)) :
    withoutSections (fun opened => written.hasHeading opened.heading)
        output.fragments = output.fragments := by
  obtain ⟨earlier, last, firstRun, -, rfl⟩ :=
    Session.drain_eq_ok_iff.mp first
  obtain ⟨passed, final, secondRun, -, rfl⟩ :=
    Session.drain_eq_ok_iff.mp second
  apply withoutSections_eq_self
  intro fragment member
  cases found : Section.ofFragment? fragment with
  | none => rfl
  | some opened =>
      have isOpen : opened ∈ final.output.sections :=
        List.mem_filterMap.mpr ⟨fragment, member, found⟩
      have dispatched : Dispatches style below opened :=
        ⟨passed, .ok (), final, secondRun,
          (secondRun.mem_sections_iff opened).mp isOpen⟩
      cases announced : last.output.hasHeading opened.heading with
      | false => exact announced
      | true =>
          have isOpenAbove := Output.hasHeading_heading_iff.mp announced
          have dispatchedAbove : Dispatches style above opened :=
            ⟨earlier, .ok (), last, firstRun,
              (firstRun.mem_sections_iff opened).mp isOpenAbove⟩
          exact absurd ⟨dispatchedAbove, dispatched⟩ (disjoint opened)

namespace Session.Run

variable {style : ReferenceStyle} {above : Text} {passed : List Session}
  {last final : Session}

private theorem drain_eq_ok_of_closesLine {start : Session}
    (run : Run style start passed (.ok ()) last)
    (taken : last.convertNext? style = some (.ok (), final))
    (closes : last.ClosesLine) :
    start.drain style = .ok final.output := by
  obtain ⟨item, next, -⟩ := closes.next?
  obtain ⟨same, found, -⟩ := next?_of_convertNext?_ok taken
  rw [next] at found
  injection found with found
  injection found with found
  injection found with _ atEnd
  exact (run.step taken).drain_eq_ok atEnd.symm

theorem convert_append_line_eq
    (run : Run style (started above) passed (.ok ()) last)
    (taken : last.convertNext? style = some (.ok (), final))
    (closes : last.ClosesLine) (below : Text) :
    convert style (above ++ '\n' :: below) =
      (Item.scan below.skipBlanks).map fun more =>
        final.output.render ++ '\n' ::
          (Item.written style final.output.sections.toFinset more).flatten := by
  obtain ⟨items, scanned, appended⟩ := run.scan_append_line closes
  have drained := run.drain_eq_ok_of_closesLine taken closes
  rw [drain_started, scanned] at drained
  injection drained with same
  have fragments := Output.fragments_foldl_write {} style items
  have sections := Output.sections_foldl_write {} style items
  rw [convert_eq_map_scan, appended below, ← same, sections, Output.render,
    fragments]
  cases Item.scan below.skipBlanks with
  | error fault => rfl
  | ok more =>
      simp only [Except.map, Item.written_append, List.flatten_append]
      rfl

private theorem convert_append_line_eq_ok
    (run : Run style (started above) passed (.ok ()) last)
    (taken : last.convertNext? style = some (.ok (), final))
    (closes : last.ClosesLine) {below : Text} {output : Output}
    (drained : (started below).drain style = .ok output) :
    convert style (above ++ '\n' :: below) =
      .ok (final.output.render ++ '\n' ::
        (withoutSections
          (fun opened => final.output.hasHeading opened.heading)
          output.fragments).flatten) := by
  have whole := run.convert_append_line_eq taken closes below
  rw [drain_started] at drained
  cases scanned : Item.scan below.skipBlanks with
  | error fault =>
      rw [scanned] at drained
      cases drained
  | ok more =>
      rw [scanned] at drained whole
      injection drained with same
      have fragments : output.fragments = Item.written style ∅ more := by
        rw [← same]
        exact Output.fragments_foldl_write {} style more
      rw [whole, Output.hasHeading_eq_decide, fragments,
        withoutSections_written, Finset.empty_union]
      rfl

end Session.Run

/-- A text below a line that is closed is converted on its own, up to the
headings that stand above it already. -/
theorem convert_append_line {style : ReferenceStyle} {above : Text}
    {passed : List Session} {last final : Session}
    (run : Session.Run style (Session.started above) passed (.ok ()) last)
    (taken : last.convertNext? style = some (.ok (), final))
    (closes : last.ClosesLine) (below : Text) :
    convert style above = .ok final.output.render ∧
    (∀ fault : AttributeFault,
      convert style (above ++ '\n' :: below) = .error fault ↔
        convert style below = .error fault) ∧
    (∀ output : Output, (Session.started below).drain style = .ok output →
      convert style (above ++ '\n' :: below) =
        .ok (final.output.render ++ '\n' ::
          (withoutSections
            (fun opened => final.output.hasHeading opened.heading)
            output.fragments).flatten)) ∧
    ((∀ opened : Section,
        ¬ (Dispatches style above opened ∧ Dispatches style below opened)) →
      ∀ markdown : Text, convert style below = .ok markdown →
        convert style (above ++ '\n' :: below) =
          .ok (final.output.render ++ '\n' :: markdown)) := by
  have drained := run.drain_eq_ok_of_closesLine taken closes
  refine ⟨congrArg (Except.map Output.render) drained, ?_, ?_, ?_⟩
  · intro fault
    rw [run.convert_append_line_eq taken closes below,
      convert_eq_error_iff_scan]
    cases Item.scan below.skipBlanks <;> simp [Except.map]
  · intro output converted
    exact run.convert_append_line_eq_ok taken closes converted
  · intro disjoint markdown converted
    change ((Session.started below).drain style).map Output.render = _
      at converted
    cases second : (Session.started below).drain style with
    | error fault =>
        rw [second] at converted
        cases converted
    | ok output =>
        rw [second] at converted
        cases converted
        rw [run.convert_append_line_eq_ok taken closes second,
          withoutSections_of_disjoint drained second disjoint]
        rfl

/-- The second line repeats no heading of the first. -/
theorem convert_append_line_param :
    ∃ (last final : Session) (passed : List Session),
      Session.Run .code (Session.started "@param a".toList) passed (.ok ())
          last ∧
        last.convertNext? .code = some (.ok (), final) ∧ last.ClosesLine ∧
        convert .code ("@param a".toList ++ '\n' :: "@param b".toList) =
          .ok (final.output.render ++ '\n' :: "* `b` -".toList) := by
  have taken :
      (Session.started "@param a".toList).convertNext? .code =
        some (.ok (), _) := rfl
  have closes : (Session.started "@param a".toList).ClosesLine :=
    .inr ⟨'@', _, rfl, rfl, .word ['a'], _, rfl, by decide, rfl⟩
  have below : (Session.started "@param b".toList).drain .code =
      .ok (((Output.emit {} "# Arguments".toList).emit "\n\n".toList).emit
        "* `b` -".toList) := by
    decide +kernel
  obtain ⟨-, -, composed, -⟩ :=
    convert_append_line .start taken closes "@param b".toList
  exact ⟨_, _, _, .start, taken, closes, composed _ below⟩
end DocTag
