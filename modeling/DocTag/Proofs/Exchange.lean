import DocTag.Proofs.Fragments
/-!
Comments with the two introducers exchanged.

No reader tells the introducers apart, no name in the table holds one, and a
rule writes one only where it found it.  So the items of such a comment are
those of the comment itself, exchanged, and so are the fragments; only the
bullet of an annotated argument has two backslashes that were never read, and
they stay.
-/

namespace DocTag

def exchange (character : Char) : Char :=
  if character = '@' then '\\'
  else if character = '\\' then '@'
  else character

def Text.exchanged (text : Text) : Text := text.map exchange

def Argument.exchanged : Argument → Argument
  | .absent => .absent
  | .word name => .word name.exchanged
  | .annotated attributes name =>
      .annotated attributes.exchanged name.exchanged

private theorem exchange_of_plain {character : Char}
    (plain : isIntroducer character = false) :
    exchange character = character := by
  unfold exchange
  rw [if_neg, if_neg]
  · rintro rfl
    cases plain
  · rintro rfl
    cases plain

theorem isIntroducer_exchange (character : Char) :
    isIntroducer (exchange character) = isIntroducer character := by
  cases tagged : isIntroducer character with
  | false => rw [exchange_of_plain tagged, tagged]
  | true => rcases eq_of_isIntroducer tagged with rfl | rfl <;> rfl

def Item.exchanged : Item → Item
  | .copied character => .copied (exchange character)
  | .tag used =>
      .tag ⟨exchange used.introducer, used.name.exchanged,
        used.argument.exchanged, (isIntroducer_exchange _).trans used.tagged⟩

def annotatedBullet (attributes name : Text) : Text :=
  "* `".toList ++ name ++ "`".toList ++
    Argument.annotation (.annotated attributes name) ++ " -".toList

/-- The two fragments have their introducers exchanged, except for the
backslashes that an annotated bullet has of its own. -/
inductive Text.Exchanges : Text → Text → Prop
  | whole {fragment : Text}
      (other : ∀ attributes name : Text,
        fragment ≠ annotatedBullet attributes name) :
      Exchanges fragment fragment.exchanged
  | bullet {attributes name : Text} (unclosed : ']' ∉ attributes)
      (undivided : ∀ character ∈ name, isWordSeparator character = false) :
      Exchanges (annotatedBullet attributes name)
        (annotatedBullet attributes.exchanged name.exchanged)

theorem exchange_exchange (character : Char) :
    exchange (exchange character) = character := by
  cases tagged : isIntroducer character with
  | false => rw [exchange_of_plain tagged, exchange_of_plain tagged]
  | true => rcases eq_of_isIntroducer tagged with rfl | rfl <;> rfl

private theorem exchange_injective : Function.Injective exchange :=
  Function.LeftInverse.injective exchange_exchange

/-- A class of characters that both introducers are in, or neither. -/
private theorem comp_exchange {holds : Char → Bool}
    (same : holds '@' = holds '\\') : holds ∘ exchange = holds := by
  funext character
  change holds (exchange character) = holds character
  cases tagged : isIntroducer character with
  | false => rw [exchange_of_plain tagged]
  | true =>
      rcases eq_of_isIntroducer tagged with rfl | rfl
      · exact same.symm
      · exact same

namespace Text

theorem exchanged_append (front text : Text) :
    exchanged (front ++ text) = front.exchanged ++ text.exchanged :=
  List.map_append

private theorem exchanged_of_isInert {text : Text} (inert : text.IsInert) :
    text.exchanged = text := by
  have same : ∀ character ∈ text, exchange character = character :=
    fun character member => exchange_of_plain (inert character member).1
  exact (List.map_congr_left same).trans (List.map_id' text)

private theorem exchanged_injective : Function.Injective exchanged :=
  List.map_injective_iff.mpr exchange_injective

theorem word_exchanged (text : Text) :
    text.exchanged.word = text.word.exchanged := by
  unfold word exchanged
  rw [List.takeWhile_map, comp_exchange rfl]

theorem behindWord_exchanged (text : Text) :
    text.exchanged.behindWord = text.behindWord.exchanged := by
  unfold behindWord exchanged
  rw [List.dropWhile_map, comp_exchange rfl]

theorem skipBlanks_exchanged (text : Text) :
    text.exchanged.skipBlanks = text.skipBlanks.exchanged := by
  unfold skipBlanks exchanged
  rw [List.dropWhile_map, comp_exchange rfl]

theorem readAttributes_exchanged (text : Text) :
    text.exchanged.readAttributes =
      text.readAttributes.map fun (attributes, rest) =>
        (attributes.exchanged, rest.exchanged) := by
  match text with
  | [] => rfl
  | character :: inside =>
      change readAttributes (exchange character :: exchanged inside) = _
      by_cases opening : character = '['
      · subst opening
        have stopped : (exchanged inside).dropWhile (· != ']') =
            exchanged (inside.dropWhile (· != ']')) := by
          unfold exchanged
          rw [List.dropWhile_map, comp_exchange rfl]
        have taken : (exchanged inside).takeWhile (· != ']') =
            exchanged (inside.takeWhile (· != ']')) := by
          unfold exchanged
          rw [List.takeWhile_map, comp_exchange rfl]
        rw [exchange_of_plain rfl]
        simp only [readAttributes, stopped, taken]
        cases inside.dropWhile (· != ']') <;> rfl
      · have other : exchange character ≠ '[' := by
          intro bracket
          exact opening (exchange_injective (bracket.trans rfl))
        simp [readAttributes, opening, other, Except.map]

private theorem bracket_not_mem_of_readAttributes {text attributes rest : Text}
    (read : text.readAttributes = .ok (attributes, rest)) :
    ']' ∉ attributes := by
  rw [readAttributes_eq] at read
  split at read
  · cases read
  · split at read
    · cases read
    · cases read
      intro member
      cases List.mem_takeWhile_imp member

theorem readParameter_exchanged (text : Text) :
    text.exchanged.readParameter =
      text.readParameter.map fun (argument, rest) =>
        (argument.exchanged, rest.exchanged) := by
  by_cases noWord : text.word = []
  · have noWordYet : text.exchanged.word = [] := by
      rw [word_exchanged, noWord]
      rfl
    rw [readParameter_of_word_eq_nil noWord,
      readParameter_of_word_eq_nil noWordYet, readAttributes_exchanged]
    cases text.readAttributes with
    | error fault => rfl
    | ok reading =>
        simp only [Except.map, skipBlanks_exchanged, word_exchanged,
          behindWord_exchanged]
        rfl
  · have named : text.exchanged.word ≠ [] := by
      rw [word_exchanged]
      exact mt List.map_eq_nil_iff.mp noWord
    rw [readParameter_of_word_ne_nil noWord, readParameter_of_word_ne_nil named,
      word_exchanged, behindWord_exchanged]
    rfl

theorem hasPart_exchanged {pattern : Text} (inert : pattern.IsInert)
    (text : Text) :
    hasPart pattern text.exchanged = hasPart pattern text := by
  have front (text : Text) :
      pattern.isPrefixOf text.exchanged = pattern.isPrefixOf text := by
    rw [Bool.eq_iff_iff, List.isPrefixOf_iff_prefix, List.isPrefixOf_iff_prefix]
    nth_rewrite 1 [← exchanged_of_isInert inert]
    exact List.prefix_map_iff_of_injective exchange_injective
  induction text with
  | nil => rfl
  | cons character rest ih =>
      have here := front (character :: rest)
      change (pattern.isPrefixOf (exchanged (character :: rest)) ||
        hasPart pattern (exchanged rest)) = _
      rw [here, ih]
      rfl

end Text

private theorem Argument.annotation_eq_nil {argument : Argument}
    (plain : ∀ attributes name : Text, argument ≠ .annotated attributes name) :
    argument.annotation = [] ∧ argument.exchanged.annotation = [] := by
  cases argument with
  | absent | word => exact ⟨rfl, rfl⟩
  | annotated attributes name => exact absurd rfl (plain attributes name)

private theorem ne_annotatedBullet {fragment : Text}
    (other : fragment.head? ≠ some '*' ∨ '[' ∉ fragment)
    (attributes name : Text) : fragment ≠ annotatedBullet attributes name := by
  rintro rfl
  rcases other with starts | noBracket
  · exact starts rfl
  · have opening : '[' ∈ Argument.annotation (.annotated attributes name) :=
      List.mem_append_left _ (List.mem_append_left _ (by decide))
    exact noBracket
      (List.mem_append_left _ (List.mem_append_right _ opening))

theorem ReferenceStyle.reference_exchanged (style : ReferenceStyle)
    (target : Text) :
    style.reference target.exchanged = (style.reference target).exchanged := by
  unfold reference
  rw [Text.hasPart_exchanged (by decide)]
  split
  · simp only [Text.exchanged_append]
    rfl
  · cases style <;>
      · simp only [Text.exchanged_append]
        rfl

namespace Rule

theorem ofName_exchanged (name : Text) : ofName name.exchanged = ofName name := by
  have listed : ∀ entry ∈ table, Text.IsInert entry.1 := by
    decide
  have same (entries : List (Text × Rule))
      (inert : ∀ entry ∈ entries, Text.IsInert entry.1) :
      entries.lookup name.exchanged = entries.lookup name := by
    induction entries with
    | nil => rfl
    | cons entry entries ih =>
        obtain ⟨first, others⟩ := List.forall_mem_cons.mp inert
        have compared : (name.exchanged == entry.1) = (name == entry.1) := by
          rw [Bool.eq_iff_iff, beq_iff_eq, beq_iff_eq]
          nth_rewrite 1 [← Text.exchanged_of_isInert first]
          exact Text.exchanged_injective.eq_iff
        rw [List.lookup_cons, List.lookup_cons, compared, ih others]
  exact congrArg (Option.getD · .verbatim) (same table listed)

theorem read_exchanged (rule : Rule) (text : Text) :
    rule.read text.exchanged =
      (rule.read text).map fun (argument, rest) =>
        (argument.exchanged, rest.exchanged) := by
  cases rule with
  | parameter => exact text.readParameter_exchanged
  | returnValue | span | reference | related =>
      simp only [read, Except.map, Text.word_exchanged,
        Text.behindWord_exchanged]
      rfl
  | returned | lead | silent | verbatim => rfl

private theorem marks_exchanged (name : Text) :
    (ofName name).marks.exchanged = (ofName name).marks :=
  Text.exchanged_of_isInert (marks_ofName name).1

/-- What is written for an argument without an attribute list has nothing that
was not read but marks. -/
theorem fragment?_exchanged {name : Text} {argument : Argument}
    (mention : Mention)
    (plain : ∀ attributes other : Text,
      argument ≠ .annotated attributes other) (style : ReferenceStyle) :
    (ofName name).fragment?
        ⟨mention.introducer.exchanged, mention.name.exchanged⟩ style
        argument.exchanged =
      ((ofName name).fragment? mention style argument).map Text.exchanged := by
  have marks := marks_exchanged name
  have text : argument.exchanged.text = argument.text.exchanged := by
    cases argument <;> rfl
  cases rule : ofName name with
  | parameter =>
      obtain ⟨noList, noListYet⟩ := Argument.annotation_eq_nil plain
      simp only [fragment?, Option.map_some, text, noList, noListYet,
        Text.exchanged_append]
      rfl
  | returnValue =>
      simp only [fragment?, Option.map_some, text, Text.exchanged_append]
      rfl
  | span mark =>
      rw [rule] at marks
      have same : mark.exchanged = mark := marks
      simp only [fragment?, Option.map_some, text, Text.exchanged_append, same]
  | reference =>
      simp only [fragment?, Option.map_some, text, style.reference_exchanged]
  | related =>
      simp only [fragment?, Option.map_some, text, style.reference_exchanged,
        Text.exchanged_append]
      rfl
  | lead markup =>
      rw [rule] at marks
      exact congrArg some marks.symm
  | verbatim =>
      simp only [fragment?, Option.map_some, Text.exchanged_append]
      rfl
  | returned | silent => rfl

private theorem eq_parameter_of_read {rule : Rule}
    {text rest attributes name : Text}
    (read : rule.read text = .ok (.annotated attributes name, rest)) :
    rule = .parameter ∧ ']' ∉ attributes ∧
      ∀ character ∈ name, Text.isWordSeparator character = false := by
  have undivided : ∀ character ∈ name,
      Text.isWordSeparator character = false :=
    fun _ member => isWordSeparator_of_mem_text read member
  cases rule with
  | parameter =>
      refine ⟨rfl, ?_, undivided⟩
      rcases Text.readParameter_eq_ok read with
        ⟨-, impossible, -⟩ | ⟨listed, closed, -, list, same, -⟩
      · cases impossible
      · cases same
        exact Text.bracket_not_mem_of_readAttributes list
  | returnValue | span | reference | related | returned | lead | silent |
      verbatim =>
      cases read

private theorem bracket_not_mem_marks (name : Text) :
    '[' ∉ (ofName name).marks :=
  forall_ofName (motive := fun rule => '[' ∉ rule.marks) (by decide) (by decide)
    name

/-- What is written for an argument without an attribute list starts otherwise
than a bullet, or has no bracket in it. -/
private theorem head?_ne_or_bracket_not_mem {name fragment : Text}
    {introducer : Char}
    {mention : Mention} {style : ReferenceStyle} {argument : Argument}
    (tagged : isIntroducer introducer = true)
    (introduced : mention.introducer = [introducer])
    (plain : ∀ attributes other : Text,
      argument ≠ .annotated attributes other)
    (undivided : '[' ∉ argument.text)
    (written : (ofName name).fragment? mention style argument =
      some fragment) :
    fragment.head? ≠ some '*' ∨ '[' ∉ fragment := by
  have marks := bracket_not_mem_marks name
  cases rule : ofName name with
  | parameter =>
      rw [rule] at written
      cases written
      right
      obtain ⟨noList, -⟩ := Argument.annotation_eq_nil plain
      simp [noList, undivided]
  | returnValue =>
      rw [rule] at written
      cases written
      right
      simp [undivided]
  | span mark =>
      rw [rule] at written marks
      cases written
      right
      have inMark : '[' ∉ mark := marks
      simp [undivided, inMark]
  | reference =>
      rw [rule] at written
      cases written
      left
      unfold ReferenceStyle.reference
      split
      · simp
      · cases style <;> simp
  | related =>
      rw [rule] at written
      cases written
      left
      simp
  | lead markup =>
      rw [rule] at written marks
      cases written
      exact .inr marks
  | verbatim =>
      rw [rule] at written
      cases written
      left
      rw [introduced]
      rcases eq_of_isIntroducer tagged with rfl | rfl <;> simp
  | returned | silent =>
      rw [rule] at written
      cases written

end Rule

namespace Item

theorem next?_exchanged (text : Text) :
    next? text.exchanged =
      (next? text).map (Except.map fun (item, rest) =>
        (item.exchanged, rest.exchanged)) := by
  match text with
  | [] => rfl
  | character :: behind =>
      have shape : Text.exchanged (character :: behind) =
          exchange character :: Text.exchanged behind := rfl
      rw [shape]
      cases tagged : isIntroducer character with
      | false =>
          rw [exchange_of_plain tagged, next?_copied _ tagged,
            next?_copied _ tagged, Text.skipBlanks_exchanged]
          simp only [Option.map_some, Except.map, exchanged,
            exchange_of_plain tagged, apply_ite Text.exchanged]
      | true =>
          rw [next?_tag _ ((isIntroducer_exchange _).trans tagged),
            next?_tag _ tagged, Text.word_exchanged, Rule.ofName_exchanged,
            Text.behindWord_exchanged, Text.skipBlanks_exchanged,
            Rule.read_exchanged]
          cases (Rule.ofName (Text.word behind)).read
            (Text.behindWord behind).skipBlanks <;> rfl

theorem scan_exchanged (text : Text) :
    scan text.exchanged = (scan text).map (List.map exchanged) := by
  have step := next?_exchanged text
  induction text using scan.induct with
  | case1 text nothing =>
      rw [next?_eq_none_iff] at nothing
      rw [nothing]
      change scan [] = _
      rw [scan_nil]
      rfl
  | case2 text fault failed =>
      rw [failed] at step
      rw [scan_of_next?_error failed, scan_of_next?_error step]
      rfl
  | case3 text item rest found shorter ih =>
      rw [found] at step
      rw [scan_of_next?_ok found, scan_of_next?_ok step,
        ih (next?_exchanged rest)]
      cases scan rest <;> rfl

def IsListless : Item → Prop
  | .copied _ => True
  | .tag used => ∀ attributes name : Text,
      used.argument ≠ .annotated attributes name

private theorem asked?_exchanged (item : Item) :
    item.exchanged.asked? = item.asked? := by
  cases item with
  | copied character => rfl
  | tag used => exact congrArg Rule.opens? (Rule.ofName_exchanged used.name)

private theorem fragment?_exchanged {item : Item} (listless : item.IsListless)
    (style : ReferenceStyle) :
    item.exchanged.fragment? style =
      (item.fragment? style).map Text.exchanged := by
  cases item with
  | copied character => rfl
  | tag used =>
      change (Rule.ofName used.name.exchanged).fragment? _ style _ = _
      rw [Rule.ofName_exchanged]
      exact Rule.fragment?_exchanged ⟨[used.introducer], used.name⟩ listless
        style

private theorem exchanges_fragment? {text rest : Text} {item : Item}
    (found : next? text = some (.ok (item, rest))) (style : ReferenceStyle) :
    List.Forall₂ Text.Exchanges (item.fragment? style).toList
      (item.exchanged.fragment? style).toList := by
  by_cases listless : item.IsListless
  · rw [fragment?_exchanged listless]
    cases written : item.fragment? style with
    | none => exact .nil
    | some fragment =>
        refine .cons (.whole (ne_annotatedBullet ?_)) .nil
        rcases next?_eq_ok_iff.mp found with
          ⟨character, behind, -, -, rfl, -⟩ |
          ⟨introducer, behind, argument, tagged, -, read, rfl⟩
        · cases written
          by_cases bracket : character = '['
          · left
            rw [bracket]
            simp
          · right
            simpa using Ne.symm bracket
        · refine Rule.head?_ne_or_bracket_not_mem tagged rfl listless ?_ written
          intro member
          cases Rule.isWordSeparator_of_mem_text read member
  · cases item with
    | copied character => exact absurd trivial listless
    | tag used =>
        rcases next?_eq_ok_iff.mp found with
          ⟨_, _, _, _, impossible, _⟩ |
          ⟨introducer, behind, argument, tagged, -, read, same⟩
        · cases impossible
        · cases same
          cases argument with
          | absent | word =>
              refine absurd ?_ listless
              rintro attributes name ⟨⟩
          | annotated attributes name =>
              obtain ⟨rule, unclosed, undivided⟩ :=
                Rule.eq_parameter_of_read read
              change List.Forall₂ _
                ((Rule.ofName behind.word).fragment? _ style _).toList
                ((Rule.ofName behind.word.exchanged).fragment? _ style _).toList
              rw [Rule.ofName_exchanged, rule]
              exact .cons (.bullet unclosed undivided) .nil

private theorem plain_of_mem_announced {opened : Finset Section}
    {asked? : Option Section} {fragment : Text}
    (member : fragment ∈ Section.announced opened asked?) :
    fragment.exchanged = fragment ∧ fragment.head? ≠ some '*' := by
  cases asked? with
  | none => cases member
  | some asked =>
      by_cases isOpen : asked ∈ opened
      · rw [Section.announced_of_mem isOpen] at member
        cases member
      · rw [Section.announced_of_not_mem isOpen] at member
        rcases List.mem_pair.mp member with rfl | rfl
        · cases asked <;> decide
        · decide

theorem written_exchanged {items : List Item}
    (listless : ∀ item ∈ items, item.IsListless) (style : ReferenceStyle)
    (opened : Finset Section) :
    written style opened (items.map exchanged) =
      (written style opened items).map Text.exchanged := by
  induction items generalizing opened with
  | nil => rfl
  | cons item items ih =>
      obtain ⟨first, others⟩ := List.forall_mem_cons.mp listless
      have headings : (Section.announced opened item.asked?).map
          Text.exchanged = Section.announced opened item.asked? :=
        (List.map_congr_left fun fragment member =>
          (plain_of_mem_announced member).1).trans (List.map_id' _)
      rw [List.map_cons, written, written, asked?_exchanged,
        fragment?_exchanged first, ih others, List.map_append, List.map_append,
        headings]
      cases item.fragment? style <;> rfl

theorem exchanges_written {text : Text} {items : List Item}
    (scanned : scan text = .ok items) (style : ReferenceStyle)
    (opened : Finset Section) :
    List.Forall₂ Text.Exchanges (written style opened items)
      (written style opened (items.map exchanged)) := by
  revert opened
  refine scan_ok_induction scanned ?_ ?_
  · exact fun opened => .nil
  · intro text item rest items found ih opened
    have headings : List.Forall₂ Text.Exchanges
        (Section.announced opened item.asked?)
        (Section.announced opened item.asked?) := by
      refine List.forall₂_same.mpr fun fragment member => ?_
      obtain ⟨same, starts⟩ := plain_of_mem_announced member
      have whole := Text.Exchanges.whole (ne_annotatedBullet (.inl starts))
      rw [same] at whole
      exact whole
    rw [List.map_cons, written, written, asked?_exchanged]
    exact List.rel_append
      (List.rel_append headings (exchanges_fragment? found style)) (ih _)

end Item

/-- A comment with its introducers exchanged breaks where the comment does, and
otherwise the same fragments are written for it, exchanged; in the bullet of an
annotated argument the list and the name are exchanged, and the backslashes of
the bullet are not.  So without attribute lists the Markdown is exchanged as
the comment is. -/
theorem convert_exchanged (style : ReferenceStyle) (comment : Text) :
    (∀ fault : AttributeFault,
      convert style comment.exchanged = .error fault ↔
        convert style comment = .error fault) ∧
    (∀ output : Output,
      (Session.started comment).drain style = .ok output →
        ∃ other : Output,
          (Session.started comment.exchanged).drain style = .ok other ∧
            List.Forall₂ Text.Exchanges output.fragments other.fragments) ∧
    ((∀ attributes name : Text,
        ¬ ReadsArgument style comment (.annotated attributes name)) →
      convert style comment.exchanged =
        (convert style comment).map Text.exchanged) := by
  have scanned : Item.scan comment.exchanged.skipBlanks =
      (Item.scan comment.skipBlanks).map (List.map Item.exchanged) := by
    rw [Text.skipBlanks_exchanged, Item.scan_exchanged]
  refine ⟨?_, ?_, ?_⟩
  · intro fault
    rw [convert_eq_error_iff_scan, convert_eq_error_iff_scan, scanned]
    cases Item.scan comment.skipBlanks <;> simp [Except.map]
  · intro output drained
    rw [Session.drain_started] at drained ⊢
    cases found : Item.scan comment.skipBlanks with
    | error fault =>
        rw [found] at drained
        cases drained
    | ok items =>
        rw [found] at drained scanned
        cases drained
        refine ⟨_, congrArg (Except.map _) scanned, ?_⟩
        rw [Output.fragments_foldl_write, Output.fragments_foldl_write]
        exact Item.exchanges_written found style ∅
  · intro listless
    rw [convert_eq_map_scan, convert_eq_map_scan, scanned]
    cases found : Item.scan comment.skipBlanks with
    | error fault => rfl
    | ok items =>
        have plain : ∀ item ∈ items, item.IsListless := by
          intro item member
          cases item with
          | copied character => trivial
          | tag used =>
              intro attributes name annotated
              exact listless attributes name
                ((readsArgument_iff found).mpr ⟨used, member, annotated⟩)
        have same := Item.written_exchanged plain style ∅
        simp only [Except.map, same]
        exact congrArg Except.ok List.map_flatten.symm

/-- The list and the name are exchanged, and the backslashes around the list are
those of the rule. -/
theorem convert_exchanged_annotated :
    let comment : Text := "\\param [@in] \\x".toList
    let output : Output := ⟨["* `\\x` \\[@in\\] -".toList, "\n\n".toList,
      "# Arguments".toList]⟩
    (Session.started comment).drain .code = .ok output ∧
      ∃ other : Output,
        (Session.started "@param [\\in] @x".toList).drain .code = .ok other ∧
          List.Forall₂ Text.Exchanges output.fragments other.fragments := by
  intro comment output
  have drained : (Session.started comment).drain .code = .ok output := by
    decide +kernel
  exact ⟨drained, (convert_exchanged .code comment).2.1 output drained⟩

end DocTag
