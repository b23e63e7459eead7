import DocTag.Proofs.Tags
/-!
Converted comments are converted to themselves.

What is written for a copied character, for a tag without arguments or for an
argument without introducers is copied when it is read again.  A tag without a
rule is written with one blank behind it, and is read again as the same tag in
front of the same blank.  For that no blank may follow the one that is written,
or a line break; and none does, since what is left of a comment behind a tag
name or a line break starts with no blank, and nothing that is written for it
does.
-/

namespace DocTag

namespace Text

def StartsVisible (text : Text) : Prop :=
  ∀ character ∈ text.head?, isBlank character = false

def showsFirst (text : Text) : Bool :=
  text.head?.any fun first => !isBlank first

/-- Nothing in the text opens a tag or breaks a line. -/
def IsInert (text : Text) : Prop :=
  ∀ character ∈ text, isIntroducer character = false ∧ character ≠ '\n'

instance (text : Text) : Decidable text.IsInert :=
  List.decidableBAll _ text

/-- Whatever the style, the text is read as items that are written as the text
again. -/
def IsSettled (text : Text) : Prop :=
  ∃ items : List Item, Item.scan text = .ok items ∧
    ∀ style : ReferenceStyle, (Item.written style ∅ items).flatten = text

theorem startsVisible_skipBlanks (text : Text) :
    text.skipBlanks.StartsVisible := by
  intro character first
  have stopped := List.head?_dropWhile_not isBlank text
  rw [show (text.dropWhile isBlank).head? = some character from first]
    at stopped
  exact stopped

private theorem StartsVisible.skipBlanks_eq {text : Text}
    (visible : text.StartsVisible) : text.skipBlanks = text := by
  cases text with
  | nil => rfl
  | cons character rest =>
      have first := visible character rfl
      rw [skipBlanks, List.dropWhile_cons_of_neg (by simp [first])]

theorem startsVisible_append {front : Text} (rest : Text)
    (shows : front.showsFirst = true) : (front ++ rest).StartsVisible := by
  cases front with
  | nil => cases shows
  | cons first front =>
      rintro character ⟨⟩
      simpa [showsFirst] using shows

private theorem isInert_append {front text : Text} :
    (front ++ text).IsInert ↔ front.IsInert ∧ text.IsInert :=
  List.forall_mem_append

private theorem isSettled_nil : IsSettled [] :=
  ⟨[], Item.scan_nil, fun _ => rfl⟩

theorem IsSettled.cons {character : Char} {rest : Text}
    (settled : rest.IsSettled) (plain : isIntroducer character = false)
    (line : character = '\n' → rest.StartsVisible) :
    IsSettled (character :: rest) := by
  obtain ⟨items, scanned, written⟩ := settled
  have found : Item.next? (character :: rest) =
      some (.ok (.copied character, rest)) := by
    rw [Item.next?_copied rest plain]
    split
    · next isLine => rw [(line isLine).skipBlanks_eq]
    · rfl
  refine ⟨.copied character :: items, ?_, ?_⟩
  · rw [Item.scan_of_next?_ok found, scanned]
    rfl
  · intro style
    exact congrArg (character :: ·) (written style)

theorem IsSettled.append {front rest : Text} (settled : rest.IsSettled)
    (inert : front.IsInert) : IsSettled (front ++ rest) := by
  induction front with
  | nil => exact settled
  | cons character front ih =>
      obtain ⟨⟨plain, other⟩, further⟩ := List.forall_mem_cons.mp inert
      exact (ih further).cons plain fun line => absurd line other

/-- A tag without a rule is read again as the tag that it was written for. -/
private theorem IsSettled.tag {introducer : Char} {name rest : Text}
    (settled : rest.IsSettled) (visible : rest.StartsVisible)
    (tagged : isIntroducer introducer = true)
    (joined : ∀ character ∈ name, isWordSeparator character = false)
    (verbatim : Rule.ofName name = .verbatim) :
    IsSettled ([introducer] ++ name ++ " ".toList ++ rest) := by
  obtain ⟨items, scanned, written⟩ := settled
  have stops : Text.StopsWord (' ' :: rest) := by
    rintro character ⟨⟩
    decide
  obtain ⟨word, behind⟩ := word_append name (' ' :: rest) (.inr stops)
  have whole : name.word = name := by
    rw [Text.word, List.takeWhile_eq_self_iff]
    intro character member
    rw [joined character member, Bool.not_false]
  have nothing : name.behindWord = [] := by
    have parts := name.word_append_behindWord
    rw [whole] at parts
    exact List.append_right_eq_self.mp parts
  have skipped : skipBlanks (' ' :: rest) = rest := visible.skipBlanks_eq
  have found : Item.next? (introducer :: (name ++ ' ' :: rest)) =
      some (.ok (.tag ⟨introducer, name, .absent, tagged⟩, rest)) := by
    rw [Item.next?_tag _ tagged]
    simp only [word, behind, whole, nothing, List.nil_append, skipped, verbatim]
    rfl
  have text : [introducer] ++ name ++ " ".toList ++ rest =
      introducer :: (name ++ ' ' :: rest) := by
    simp
  rw [text]
  refine ⟨.tag ⟨introducer, name, .absent, tagged⟩ :: items, ?_, ?_⟩
  · rw [Item.scan_of_next?_ok found, scanned]
    rfl
  · intro style
    have same := written style
    simp only [Item.written, Item.asked?, Item.fragment?, verbatim]
    simp [Section.announced, Section.openedWith, Rule.opens?, Rule.fragment?,
      same]

end Text

private theorem ReferenceStyle.isInert_reference {target : Text}
    (inert : target.IsInert) (style : ReferenceStyle) :
    (style.reference target).IsInert := by
  unfold reference
  split
  · simp only [Text.isInert_append, inert, and_true]
    decide
  · cases style <;>
      · simp only [Text.isInert_append, inert, and_true]
        decide

theorem ReferenceStyle.showsFirst_reference (style : ReferenceStyle)
    (target : Text) : (style.reference target).showsFirst = true := by
  unfold reference
  split
  · rfl
  · cases style <;> rfl

namespace Rule

def marks : Rule → Text
  | .span mark => mark
  | .lead markup => markup
  | _ => "`".toList

theorem marks_ofName (name : Text) :
    (ofName name).marks.IsInert ∧ (ofName name).marks.showsFirst = true :=
  forall_ofName (motive := fun rule =>
    rule.marks.IsInert ∧ rule.marks.showsFirst = true)
    (by decide) (by decide) name

/-- A rule that opens no section and does not copy its tag writes inert text
for an inert argument. -/
private theorem fragment?_of_inert {name fragment : Text} {mention : Mention}
    {style : ReferenceStyle} {argument : Argument}
    (noSection : (ofName name).opens? = none)
    (other : ofName name ≠ .verbatim) (inert : argument.text.IsInert)
    (written : (ofName name).fragment? mention style argument =
      some fragment) :
    fragment.IsInert ∧ fragment.showsFirst = true := by
  obtain ⟨inertMarks, shows⟩ := marks_ofName name
  cases rule : ofName name with
  | parameter | related | returned =>
      rw [rule] at noSection
      cases noSection
  | verbatim => exact absurd rule other
  | silent =>
      rw [rule] at written
      cases written
  | lead markup =>
      rw [rule] at written inertMarks shows
      cases written
      exact ⟨inertMarks, shows⟩
  | returnValue =>
      rw [rule] at written
      cases written
      refine ⟨?_, rfl⟩
      simp only [Text.isInert_append, inert, and_true]
      decide
  | span mark =>
      rw [rule] at written inertMarks shows
      cases written
      have inertMark : mark.IsInert := inertMarks
      refine ⟨?_, ?_⟩
      · simp only [Text.isInert_append, inert, inertMark, and_true]
      · cases mark with
        | nil => cases shows
        | cons first mark => exact shows
  | reference =>
      rw [rule] at written
      cases written
      exact ⟨style.isInert_reference inert, style.showsFirst_reference _⟩

private theorem eq_silent_of_fragment?_eq_none {rule : Rule} {mention : Mention}
    {style : ReferenceStyle} {argument : Argument}
    (noSection : rule.opens? = none)
    (written : rule.fragment? mention style argument = none) :
    rule = .silent := by
  cases rule with
  | silent => rfl
  | returned => cases noSection
  | parameter | returnValue | span | reference | related | lead | verbatim =>
      cases written

private theorem isInert_of_read {rule : Rule} {text rest : Text}
    {argument : Argument} (noSection : rule.opens? = none)
    (read : rule.read text = .ok (argument, rest))
    (plain : ∀ word : Text, argument = .word word →
      ∀ character ∈ word, isIntroducer character = false) :
    argument.text.IsInert := by
  cases rule with
  | parameter => cases noSection
  | returnValue | span | reference | related =>
      cases read
      intro character member
      refine ⟨plain text.word rfl character member, ?_⟩
      rintro rfl
      cases Text.isWordSeparator_of_mem_word member
  | returned | lead | silent | verbatim =>
      cases read
      intro character member
      cases member

end Rule

namespace Item

/-- The item opens no section, and no word it reads holds an introducer. -/
def IsFlat : Item → Prop
  | .copied _ => True
  | .tag used => Section.ofTag? used.name = none ∧
      ∀ word : Text, used.argument = .word word →
        ∀ character ∈ word, isIntroducer character = false

private theorem IsFlat.asked?_eq_none {item : Item} (flat : item.IsFlat) :
    item.asked? = none := by
  cases item with
  | copied character => rfl
  | tag used => exact (Rule.opens?_ofName used.name).trans flat.1

theorem flatten_written_cons {item : Item} (flat : item.IsFlat)
    (style : ReferenceStyle) (items : List Item) :
    (written style ∅ (item :: items)).flatten =
      (item.fragment? style).toList.flatten ++
        (written style ∅ items).flatten := by
  rw [written, flat.asked?_eq_none, List.flatten_append, List.flatten_append]
  rfl

private theorem isSettled_append {text rest following : Text} {item : Item}
    (found : next? text = some (.ok (item, rest))) (flat : item.IsFlat)
    (settled : following.IsSettled)
    (visible : rest.StartsVisible → following.StartsVisible)
    (style : ReferenceStyle) :
    Text.IsSettled ((item.fragment? style).toList.flatten ++ following) ∧
      (text.StartsVisible → Text.StartsVisible
        ((item.fragment? style).toList.flatten ++ following)) := by
  rcases next?_eq_ok_iff.mp found with
    ⟨character, behind, rfl, plain, rfl, rest⟩ |
    ⟨introducer, behind, argument, tagged, rfl, read, rfl⟩
  · refine ⟨settled.cons plain ?_, ?_⟩
    · intro line
      rw [rest, if_pos line] at visible
      exact visible behind.startsVisible_skipBlanks
    · rintro starts first ⟨⟩
      exact starts character rfl
  · have skipped := behind.behindWord.startsVisible_skipBlanks
    obtain ⟨noSection, plain⟩ := flat
    rw [← Rule.opens?_ofName] at noSection
    have inert := Rule.isInert_of_read noSection read plain
    by_cases verbatim : Rule.ofName behind.word = .verbatim
    -- A copied tag is no inert text, but it is read as a tag again.
    · rw [verbatim] at read
      cases read
      have fragment : (fragment? style (.tag ⟨introducer, behind.word, .absent,
          tagged⟩)).toList.flatten = [introducer] ++ behind.word ++ " ".toList := by
        simp only [fragment?, verbatim, Rule.fragment?, Option.toList_some,
          List.flatten_singleton]
      rw [fragment]
      refine ⟨settled.tag (visible skipped) tagged
        (fun _ member => Text.isWordSeparator_of_mem_word member) verbatim, ?_⟩
      rintro starts first ⟨⟩
      exact starts introducer rfl
    · cases written : fragment? style
          (.tag ⟨introducer, behind.word, argument, tagged⟩) with
      | none =>
          rw [Rule.eq_silent_of_fragment?_eq_none noSection written] at read
          cases read
          exact ⟨settled, fun _ => visible skipped⟩
      | some fragment =>
          obtain ⟨inertFragment, shows⟩ :=
            Rule.fragment?_of_inert noSection verbatim inert written
          refine ⟨?_, fun _ => ?_⟩
          · simpa using settled.append inertFragment
          · simpa using Text.startsVisible_append following shows

/-- What the items of a text without sections are written as is settled, and it
starts with no blank if the text starts with none. -/
theorem isSettled_written {text : Text} {items : List Item}
    (scanned : scan text = .ok items) (flat : ∀ item ∈ items, item.IsFlat)
    (style : ReferenceStyle) :
    Text.IsSettled (written style ∅ items).flatten ∧
      (text.StartsVisible →
        Text.StartsVisible (written style ∅ items).flatten) := by
  revert flat
  refine scan_ok_induction scanned ?_ ?_
  · intro flat
    exact ⟨Text.isSettled_nil, fun _ _ first => by cases first⟩
  · intro text item rest items found ih flat
    obtain ⟨isFlat, flatRest⟩ := List.forall_mem_cons.mp flat
    obtain ⟨settled, visible⟩ := ih flatRest
    rw [flatten_written_cons isFlat]
    exact isSettled_append found isFlat settled visible style

end Item

/-! ### Second conversions -/

theorem convert_of_isSettled {markdown : Text} (settled : markdown.IsSettled)
    (visible : markdown.StartsVisible) (style : ReferenceStyle) :
    convert style markdown = .ok markdown := by
  obtain ⟨items, scanned, written⟩ := settled
  rw [convert_eq_map_scan, visible.skipBlanks_eq, scanned]
  exact congrArg Except.ok (written style)

private theorem convert_written {comment : Text} {items : List Item}
    (scanned : Item.scan comment.skipBlanks = .ok items)
    (flat : ∀ item ∈ items, item.IsFlat) (style other : ReferenceStyle) :
    convert other (Item.written style ∅ items).flatten =
      .ok (Item.written style ∅ items).flatten := by
  obtain ⟨settled, visible⟩ := Item.isSettled_written scanned flat style
  exact convert_of_isSettled settled
    (visible comment.startsVisible_skipBlanks) other

private theorem Item.isFlat_of_run {style : ReferenceStyle} {comment : Text}
    {items : List Item} (scanned : Item.scan comment.skipBlanks = .ok items)
    (noSection : ∀ opened : Section, ¬ Dispatches style comment opened)
    (plainWords : ∀ word : Text, ReadsArgument style comment (.word word) →
      ∀ character ∈ word, isIntroducer character = false) :
    ∀ item ∈ items, item.IsFlat := by
  intro item member
  cases item with
  | copied character => trivial
  | tag used =>
      have noTag : Section.ofTag? used.name = none := by
        cases asked : Section.ofTag? used.name with
        | none => rfl
        | some opened =>
            have tag := Section.ofTag?_eq_some_iff.mp asked
            exact absurd ((dispatches_iff scanned).mpr
              ⟨_, member, used.name, tag, rfl⟩) (noSection opened)
      refine ⟨noTag, ?_⟩
      intro word argument
      exact plainWords word
        ((readsArgument_iff scanned).mpr ⟨used, member, argument⟩)

theorem Item.scan_of_plain {text : Text}
    (plain : ∀ character ∈ text, isIntroducer character = false) :
    ∃ items : List Item, Item.scan text = .ok items ∧
      ∀ item ∈ items, item.IsFlat := by
  induction text using scan.induct with
  | case1 text atEnd =>
      rw [next?_eq_none_iff] at atEnd
      rw [atEnd, scan_nil]
      exact ⟨[], rfl, fun _ member => by cases member⟩
  | case2 text fault failed =>
      obtain ⟨introducer, behind, rfl, tagged, -⟩ :=
        next?_eq_error_iff.mp failed
      rw [plain introducer List.mem_cons_self] at tagged
      cases tagged
  | case3 text item rest found shorter ih =>
      rcases next?_eq_ok_iff.mp found with
        ⟨character, behind, rfl, -, rfl, -⟩ |
        ⟨introducer, behind, argument, tagged, rfl, -, -⟩
      · obtain ⟨first, after, split, left⟩ := next?_suffix found
        cases split
        obtain ⟨more, further, flat⟩ := ih fun other member =>
          plain other (List.mem_cons_of_mem character (left.mem member))
        refine ⟨.copied character :: more, ?_, ?_⟩
        · rw [scan_of_next?_ok found, further]
          rfl
        · exact List.forall_mem_cons.mpr ⟨trivial, flat⟩
      · rw [plain introducer List.mem_cons_self] at tagged
        cases tagged

/-- A conversion that dispatches no tag of a section, and reads no word with an
introducer in it, gives a text that every conversion leaves as it is. -/
theorem convert_convert (style other : ReferenceStyle) :
    (∀ comment markdown : Text, convert style comment = .ok markdown →
      (∀ opened : Section, ¬ Dispatches style comment opened) →
      (∀ word : Text, ReadsArgument style comment (.word word) →
        ∀ character ∈ word, isIntroducer character = false) →
      convert other markdown = .ok markdown) ∧
    ∀ comment : Text,
      (∀ character ∈ comment, isIntroducer character = false) →
      ∃ markdown : Text, convert style comment = .ok markdown ∧
        convert other markdown = .ok markdown := by
  constructor
  · intro comment markdown converted noSection plainWords
    rw [convert_eq_map_scan] at converted
    cases scanned : Item.scan comment.skipBlanks with
    | error fault => rw [scanned] at converted; cases converted
    | ok items =>
        rw [scanned] at converted
        cases converted
        exact convert_written scanned
          (Item.isFlat_of_run scanned noSection plainWords) style other
  · intro comment plain
    have plainAhead : ∀ character ∈ comment.skipBlanks,
        isIntroducer character = false :=
      fun character member =>
        plain character (comment.skipBlanks_suffix.mem member)
    obtain ⟨items, scanned, flat⟩ := Item.scan_of_plain plainAhead
    refine ⟨_, ?_, convert_written scanned flat style other⟩
    rw [convert_eq_map_scan, scanned]
    rfl

/-- Tags without rules stay, also the one without a name at the end. -/
theorem convert_convert_stray :
    convert .code "@brief @todo[x\n\n  @b w @".toList =
        .ok "@todo [x\n**w** @ ".toList ∧
      convert .intraDoc "@todo [x\n**w** @ ".toList =
        .ok "@todo [x\n**w** @ ".toList := by
  have converted : convert .code "@brief @todo[x\n\n  @b w @".toList =
      .ok "@todo [x\n**w** @ ".toList := by
    decide +kernel
  have scanned : Item.scan
      (Text.skipBlanks "@brief @todo[x\n\n  @b w @".toList) =
        .ok [.tag ⟨'@', "brief".toList, .absent, rfl⟩,
          .tag ⟨'@', "todo".toList, .absent, rfl⟩, .copied '[', .copied 'x',
          .copied '\n', .tag ⟨'@', "b".toList, .word "w".toList, rfl⟩,
          .copied ' ', .tag ⟨'@', [], .absent, rfl⟩] := by
    decide +kernel
  refine ⟨converted, (convert_convert .code .intraDoc).1 _ _ converted ?_ ?_⟩
  · intro opened dispatched
    have tagged := (dispatches_iff scanned).mp dispatched
    revert tagged
    cases opened <;> decide
  · intro word reads
    obtain ⟨used, member, same⟩ := (readsArgument_iff scanned).mp reads
    simp only [List.mem_cons, List.not_mem_nil, reduceCtorEq, or_false,
      false_or, Item.tag.injEq] at member
    rcases member with rfl | rfl | rfl | rfl
    · cases same
    · cases same
    · cases same
      exact List.forall_mem_singleton.mpr rfl
    · cases same

end DocTag
