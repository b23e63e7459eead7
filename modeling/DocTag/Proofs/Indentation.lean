import DocTag.Proofs.Tags
import Mathlib.Data.List.DropRight
/-!
Indentation does not matter.

A text is outdented by leaving out the blanks behind every line break.  Each
reader either stops at a line break or passes blanks of every kind, so it finds
in the outdented text what it finds in the text itself, outdented as well, and
leaves the outdented rest.  So the items of the two texts are the same, up to
the line breaks inside attribute lists.
-/

namespace DocTag

namespace Text

/-- The text without the blanks behind its line breaks. -/
def outdent : Text → Text
  | [] => []
  | character :: behind =>
      if character = '\n' then
        have : (skipBlanks behind).length < (character :: behind).length :=
          Nat.lt_succ_of_le (skipBlanks_suffix behind).length_le
        character :: outdent (skipBlanks behind)
      else character :: outdent behind
termination_by text => text.length
decreasing_by
  · exact this
  · exact Nat.lt_succ_self behind.length

def dedented (text : Text) : Text := outdent text.skipBlanks

theorem outdent_nil : outdent [] = [] := by
  rw [outdent]

theorem outdent_newline (behind : Text) :
    outdent ('\n' :: behind) = '\n' :: outdent behind.skipBlanks := by
  rw [outdent, if_pos rfl]

theorem outdent_cons {character : Char} (behind : Text)
    (other : character ≠ '\n') :
    outdent (character :: behind) = character :: outdent behind := by
  rw [outdent, if_neg other]

private theorem outdent_eq_self {text : Text} (oneLine : '\n' ∉ text) :
    text.outdent = text := by
  induction text with
  | nil => exact outdent_nil
  | cons character behind ih =>
      rw [List.mem_cons, not_or] at oneLine
      rw [outdent_cons behind (Ne.symm oneLine.1), ih oneLine.2]

private theorem newline_mem_outdent {text : Text} (member : '\n' ∈ text) :
    '\n' ∈ text.outdent := by
  induction text with
  | nil => cases member
  | cons character behind ih =>
      by_cases line : character = '\n'
      · rw [line, outdent_newline]
        exact List.mem_cons_self
      · rw [outdent_cons behind line]
        rcases List.mem_cons.mp member with same | later
        · exact absurd same.symm line
        · exact List.mem_cons_of_mem character (ih later)

/-- A run of characters that stops at line breaks, or that no blank stops. -/
def PassesIndents (holds : Char → Bool) : Prop :=
  holds '\n' = false ∨ ∀ blank : Char, isBlank blank = true → holds blank = true

private theorem dropWhile_skipBlanks {holds : Char → Bool}
    (passes : ∀ blank : Char, isBlank blank = true → holds blank = true)
    (text : Text) :
    text.skipBlanks.dropWhile holds = text.dropWhile holds := by
  induction text with
  | nil => rfl
  | cons character behind ih =>
      by_cases blank : isBlank character = true
      · rw [skipBlanks, List.dropWhile_cons_of_pos blank,
          List.dropWhile_cons_of_pos (passes character blank)]
        exact ih
      · rw [skipBlanks, List.dropWhile_cons_of_neg blank]

private theorem skipBlanks_takeWhile {holds : Char → Bool}
    (passes : ∀ blank : Char, isBlank blank = true → holds blank = true)
    (text : Text) :
    skipBlanks (text.takeWhile holds) = text.skipBlanks.takeWhile holds := by
  induction text with
  | nil => rfl
  | cons character behind ih =>
      by_cases blank : isBlank character = true
      · rw [List.takeWhile_cons_of_pos (passes character blank), skipBlanks,
          skipBlanks, List.dropWhile_cons_of_pos blank,
          List.dropWhile_cons_of_pos blank]
        exact ih
      · by_cases held : holds character = true
        · rw [List.takeWhile_cons_of_pos held, skipBlanks, skipBlanks,
            List.dropWhile_cons_of_neg blank, List.dropWhile_cons_of_neg blank,
            List.takeWhile_cons_of_pos held]
        · rw [List.takeWhile_cons_of_neg held, skipBlanks, skipBlanks,
            List.dropWhile_cons_of_neg blank, List.takeWhile_cons_of_neg held]
          rfl

theorem dropWhile_outdent {holds : Char → Bool}
    (passes : PassesIndents holds) (text : Text) :
    text.outdent.dropWhile holds = outdent (text.dropWhile holds) := by
  fun_induction outdent text with
  | case1 => exact outdent_nil.symm
  | case2 behind shorter ih =>
      rcases passes with stops | blanks
      · rw [List.dropWhile_cons_of_neg (by simp [stops]),
          List.dropWhile_cons_of_neg (by simp [stops]), outdent_newline]
      · have held : holds '\n' = true := blanks '\n' rfl
        rw [List.dropWhile_cons_of_pos held, List.dropWhile_cons_of_pos held,
          ih, dropWhile_skipBlanks blanks]
  | case3 character behind other ih =>
      by_cases held : holds character = true
      · rw [List.dropWhile_cons_of_pos held, List.dropWhile_cons_of_pos held,
          ih]
      · rw [List.dropWhile_cons_of_neg held, List.dropWhile_cons_of_neg held,
          outdent_cons behind other]

private theorem takeWhile_outdent {holds : Char → Bool}
    (passes : PassesIndents holds) (text : Text) :
    text.outdent.takeWhile holds = outdent (text.takeWhile holds) := by
  fun_induction outdent text with
  | case1 => exact outdent_nil.symm
  | case2 behind shorter ih =>
      rcases passes with stops | blanks
      · rw [List.takeWhile_cons_of_neg (by simp [stops]),
          List.takeWhile_cons_of_neg (by simp [stops]), outdent_nil]
      · have held : holds '\n' = true := blanks '\n' rfl
        rw [List.takeWhile_cons_of_pos held, List.takeWhile_cons_of_pos held,
          ih, outdent_newline, skipBlanks_takeWhile blanks]
  | case3 character behind other ih =>
      by_cases held : holds character = true
      · rw [List.takeWhile_cons_of_pos held, List.takeWhile_cons_of_pos held,
          ih, outdent_cons _ other]
      · rw [List.takeWhile_cons_of_neg held, List.takeWhile_cons_of_neg held,
          outdent_nil]

theorem word_outdent (text : Text) : text.outdent.word = text.word := by
  have oneLine : '\n' ∉ text.word := by
    intro member
    cases isWordSeparator_of_mem_word member
  exact (takeWhile_outdent (.inl rfl) text).trans (outdent_eq_self oneLine)

theorem behindWord_outdent (text : Text) :
    text.outdent.behindWord = text.behindWord.outdent :=
  dropWhile_outdent (.inl rfl) text

theorem skipBlanks_outdent (text : Text) :
    text.outdent.skipBlanks = text.skipBlanks.outdent :=
  dropWhile_outdent (.inr fun _ blank => blank) text

theorem skipBlanks_skipBlanks (text : Text) :
    text.skipBlanks.skipBlanks = text.skipBlanks :=
  List.dropWhile_idempotent isBlank text

private theorem passesIndents_inside : PassesIndents (· != ']') := by
  refine .inr ?_
  intro blank isBlank
  rw [bne_iff_ne]
  rintro rfl
  cases isBlank

theorem readAttributes_outdent (text : Text) :
    text.outdent.readAttributes =
      text.readAttributes.map fun (attributes, rest) =>
        (attributes.outdent, rest.outdent) := by
  match text with
  | [] => rw [outdent_nil]; rfl
  | character :: inside =>
      by_cases line : character = '\n'
      · subst line
        rw [outdent_newline]
        rfl
      · rw [outdent_cons inside line]
        by_cases opening : character = '['
        · subst opening
          have stopped := dropWhile_outdent passesIndents_inside inside
          have taken := takeWhile_outdent passesIndents_inside inside
          cases left : inside.dropWhile (· != ']') with
          | nil =>
              rw [left, outdent_nil] at stopped
              simp [readAttributes, stopped, left, Except.map]
          | cons bracket rest =>
              have closing := List.head?_dropWhile_not (· != ']') inside
              rw [left] at closing
              obtain rfl : bracket = ']' := by simpa using closing
              rw [left, outdent_cons rest (by decide)] at stopped
              simp [readAttributes, stopped, left, taken, Except.map]
        · simp [readAttributes, opening, Except.map]

end Text

def Argument.outdented : Argument → Argument
  | .annotated attributes name => .annotated attributes.outdent name
  | argument => argument

theorem Text.readParameter_outdent (text : Text) :
    text.outdent.readParameter =
      text.readParameter.map fun (argument, rest) =>
        (argument.outdented, rest.outdent) := by
  by_cases noWord : text.word = []
  · have noWordYet : text.outdent.word = [] := text.word_outdent.trans noWord
    rw [readParameter_of_word_eq_nil noWord,
      readParameter_of_word_eq_nil noWordYet, readAttributes_outdent]
    cases text.readAttributes with
    | error fault => rfl
    | ok reading =>
        obtain ⟨attributes, closed⟩ := reading
        simp only [Except.map, skipBlanks_outdent, word_outdent,
          behindWord_outdent, Argument.outdented]
  · have named : text.outdent.word ≠ [] := by
      rw [word_outdent]
      exact noWord
    rw [readParameter_of_word_ne_nil noWord,
      readParameter_of_word_ne_nil named, word_outdent, behindWord_outdent]
    rfl

theorem Rule.read_outdent (rule : Rule) (text : Text) :
    rule.read text.outdent =
      (rule.read text).map fun (argument, rest) =>
        (argument.outdented, rest.outdent) := by
  cases rule with
  | parameter => exact text.readParameter_outdent
  | returnValue | span | reference | related =>
      simp only [read, Text.word_outdent, Text.behindWord_outdent]
      rfl
  | returned | lead | silent | verbatim => rfl

namespace Item

def outdented : Item → Item
  | .copied character => .copied character
  | .tag used => .tag { used with argument := used.argument.outdented }

private theorem next?_outdent_of_ok {text rest : Text} {item : Item}
    (found : next? text = some (.ok (item, rest))) :
    next? text.outdent = some (.ok (item.outdented, rest.outdent)) := by
  rcases next?_eq_ok_iff.mp found with
    ⟨character, behind, rfl, plain, rfl, rfl⟩ |
    ⟨introducer, behind, argument, tagged, rfl, read, rfl⟩
  · by_cases line : character = '\n'
    · subst line
      rw [Text.outdent_newline, next?_copied _ plain, if_pos rfl, if_pos rfl,
        Text.skipBlanks_outdent, Text.skipBlanks_skipBlanks]
      rfl
    · rw [Text.outdent_cons behind line, next?_copied _ plain, if_neg line,
        if_neg line]
      rfl
  · have other : introducer ≠ '\n' := by
      rintro rfl
      cases tagged
    rw [Text.outdent_cons behind other, next?_tag _ tagged]
    simp only [Text.word_outdent, Text.behindWord_outdent,
      Text.skipBlanks_outdent, Rule.read_outdent, read, Except.map]
    rfl

private theorem next?_outdent_of_error {text : Text} {fault : AttributeFault}
    (failed : next? text = some (.error fault)) :
    next? text.outdent = some (.error fault) := by
  obtain ⟨introducer, behind, rfl, tagged, read⟩ := next?_eq_error_iff.mp failed
  have other : introducer ≠ '\n' := by
    rintro rfl
    cases tagged
  rw [Text.outdent_cons behind other, next?_tag _ tagged]
  simp only [Text.word_outdent, Text.behindWord_outdent,
    Text.skipBlanks_outdent, Rule.read_outdent, read, Except.map]

/-- Outdenting a text changes nothing in its items but the line breaks inside
attribute lists. -/
theorem scan_outdent (text : Text) :
    scan text.outdent = (scan text).map (List.map outdented) := by
  induction text using scan.induct with
  | case1 text atEnd =>
      rw [next?_eq_none_iff] at atEnd
      rw [atEnd, Text.outdent_nil, scan_nil]
      rfl
  | case2 text fault failed =>
      rw [scan_of_next?_error failed,
        scan_of_next?_error (next?_outdent_of_error failed)]
      rfl
  | case3 text item rest found shorter ih =>
      rw [scan_of_next?_ok found,
        scan_of_next?_ok (next?_outdent_of_ok found), ih]
      cases scan rest <;> rfl

end Item

/-! ### Conversions of dedented comments -/

namespace Item

def IsOneLine : Item → Prop
  | .copied _ => True
  | .tag used => ∀ (attributes name : Text),
      used.argument = .annotated attributes name → '\n' ∉ attributes

private theorem outdented_eq_self {item : Item} (oneLine : item.IsOneLine) :
    item.outdented = item := by
  cases item with
  | copied character => rfl
  | tag used =>
      obtain ⟨introducer, name, argument, tagged⟩ := used
      cases argument with
      | absent | word => rfl
      | annotated attributes word =>
          have same := Text.outdent_eq_self (oneLine attributes word rfl)
          simp only [outdented, Argument.outdented, same]

private theorem isOneLine_of_outdented {item : Item}
    (oneLine : item.outdented.IsOneLine) : item.IsOneLine := by
  cases item with
  | copied character => exact oneLine
  | tag used =>
      obtain ⟨introducer, name, argument, tagged⟩ := used
      rintro attributes word rfl member
      exact oneLine attributes.outdent word rfl (Text.newline_mem_outdent member)

end Item

theorem Text.skipBlanks_dedented (comment : Text) :
    comment.dedented.skipBlanks = comment.dedented := by
  rw [dedented, skipBlanks_outdent, skipBlanks_skipBlanks]

def Text.ListsAreOneLine (comment : Text) : Prop :=
  ∀ items : List Item, Item.scan comment.skipBlanks = .ok items →
    ∀ item ∈ items, item.IsOneLine

namespace Item

theorem scan_dedented (comment : Text) :
    scan comment.dedented.skipBlanks =
      (scan comment.skipBlanks).map (List.map outdented) := by
  rw [Text.skipBlanks_dedented, Text.dedented, scan_outdent]

private theorem scan_dedented_eq {comment : Text}
    (oneLine : comment.ListsAreOneLine) :
    scan comment.dedented.skipBlanks = scan comment.skipBlanks := by
  rw [scan_dedented]
  cases scanned : scan comment.skipBlanks with
  | error fault => rfl
  | ok items =>
      have kept : items.map outdented = items.map id := by
        apply List.map_congr_left
        intro item member
        exact outdented_eq_self (oneLine items scanned item member)
      rw [List.map_id] at kept
      exact congrArg Except.ok kept

end Item

/-- Comments that are dedented to one text have line breaks in the same lists:
a break stays when its list is outdented. -/
private theorem Text.ListsAreOneLine.of_dedented_eq {comment other : Text}
    (oneLine : comment.ListsAreOneLine)
    (same : other.dedented = comment.dedented) : other.ListsAreOneLine := by
  intro items scanned item member
  have outdented := Item.scan_dedented other
  rw [same, Item.scan_dedented_eq oneLine, scanned] at outdented
  apply Item.isOneLine_of_outdented
  exact oneLine _ outdented item.outdented (List.mem_map_of_mem member)

theorem Text.listsAreOneLine_of_reads {style : ReferenceStyle}
    {comment : Text}
    (oneLine : ∀ attributes name : Text,
      ReadsArgument style comment (.annotated attributes name) →
        '\n' ∉ attributes) :
    comment.ListsAreOneLine := by
  intro items scanned item member
  cases item with
  | copied character => trivial
  | tag used =>
      intro attributes name annotated
      apply oneLine attributes name
      exact (readsArgument_iff scanned).mpr ⟨used, member, annotated⟩

private theorem convert_eq_of_scan_eq {style : ReferenceStyle}
    {first second : Text}
    (same : Item.scan first.skipBlanks = Item.scan second.skipBlanks) :
    convert style first = convert style second := by
  rw [convert_eq_map_scan, convert_eq_map_scan, same]

/-- Where no attribute list that is read breaks a line, a dedented comment
converts as the comment itself, and so does every comment that differs from it
in its indentation and its blank lines alone. -/
theorem convert_dedented {style : ReferenceStyle} {comment : Text}
    (oneLine : ∀ attributes name : Text,
      ReadsArgument style comment (.annotated attributes name) →
        '\n' ∉ attributes) :
    convert style comment.dedented = convert style comment ∧
      ∀ other : Text, other.dedented = comment.dedented →
        convert style other = convert style comment := by
  have ofComment := Text.listsAreOneLine_of_reads oneLine
  have dedented := Item.scan_dedented_eq ofComment
  refine ⟨convert_eq_of_scan_eq dedented, ?_⟩
  intro other same
  have ofOther := Item.scan_dedented_eq (ofComment.of_dedented_eq same)
  rw [same] at ofOther
  exact convert_eq_of_scan_eq (ofOther.symm.trans dedented)

/-- A blank line and the indentation of the bullet make no difference. -/
theorem convert_dedented_blank_line :
    (∀ attributes name : Text,
      ReadsArgument .code " @param [in] x\n \n  y".toList
          (.annotated attributes name) → '\n' ∉ attributes) ∧
      convert .code "@param [in] x\ny".toList =
        convert .code " @param [in] x\n \n  y".toList := by
  have scanned : Item.scan (Text.skipBlanks " @param [in] x\n \n  y".toList) =
      .ok [.tag ⟨'@', "param".toList,
          .annotated "in".toList "x".toList, rfl⟩,
        .copied '\n', .copied 'y'] := by
    decide +kernel
  have oneLine : ∀ attributes name : Text,
      ReadsArgument .code " @param [in] x\n \n  y".toList
          (.annotated attributes name) → '\n' ∉ attributes := by
    intro attributes name reads
    obtain ⟨used, member, same⟩ := (readsArgument_iff scanned).mp reads
    simp only [List.mem_cons, List.not_mem_nil, reduceCtorEq, or_false,
      Item.tag.injEq] at member
    subst member
    cases same
    decide
  refine ⟨oneLine, (convert_dedented oneLine).2 _ ?_⟩
  decide +kernel

end DocTag
