import DocTag.Proofs.Conservation
import DocTag.Proofs.SecondPass
/-!
What the fragment of a tag starts with, holds and ends with.

A rule puts its marks around what it has read.  So the fragment of a tag starts
with no blank and ends with no line break, and apart from printable ASCII it
holds characters of the tag and of its argument only.
-/

namespace DocTag

namespace Text

def isGraphic (character : Char) : Bool :=
  0x20 ≤ character.toNat && character.toNat ≤ 0x7E

def endsInside (text : Text) : Bool :=
  text.getLast?.any fun last => last != '\n'

def MadeOf (given text : Text) : Prop :=
  ∀ character ∈ text, isGraphic character = true ∨ character ∈ given

theorem madeOf_append {given front text : Text} :
    MadeOf given (front ++ text) ↔ MadeOf given front ∧ MadeOf given text :=
  List.forall_mem_append

private theorem madeOf_of_graphic {text : Text} (given : Text)
    (graphic : text.all isGraphic = true) : MadeOf given text :=
  fun character member => .inl (List.all_eq_true.mp graphic character member)

private theorem madeOf_of_subset {given text : Text} (subset : text ⊆ given) :
    MadeOf given text :=
  fun _ member => .inr (subset member)

theorem MadeOf.not_mem {given text : Text} {character : Char}
    (made : MadeOf given text) (control : isGraphic character = false)
    (absent : character ∉ given) : character ∉ text := by
  intro member
  rcases made character member with graphic | inGiven
  · rw [control] at graphic
    cases graphic
  · exact absent inGiven

theorem endsInside_append (front : Text) {text : Text}
    (ends : text.endsInside = true) : (front ++ text).endsInside = true := by
  have occupied : text ≠ [] := by
    rintro rfl
    cases ends
  rw [endsInside, List.getLast?_append_of_ne_nil front occupied]
  exact ends

private theorem endsInside_of_isInert {text : Text} (inert : text.IsInert)
    (occupied : text ≠ []) : text.endsInside = true := by
  have other := (inert _ (List.getLast_mem occupied)).2
  rw [endsInside, List.getLast?_eq_some_getLast occupied]
  simpa using other

theorem ne_nil_of_endsInside {text : Text} (ends : text.endsInside = true) :
    text ≠ [] := by
  rintro rfl
  cases ends

theorem getLast?_ne_newline {text : Text} (ends : text.endsInside = true) :
    text.getLast? ≠ some '\n' := by
  intro newline
  rw [endsInside, newline] at ends
  cases ends

/-- Marks stand around the text, and between them what they were put
around. -/
structure IsFramed (given text : Text) : Prop where
  shows : text.showsFirst = true
  ends : text.endsInside = true
  made : MadeOf given text

end Text

theorem ReferenceStyle.isFramed_reference {given target : Text}
    (made : Text.MadeOf given target) (style : ReferenceStyle) :
    Text.IsFramed given (style.reference target) := by
  refine ⟨style.showsFirst_reference target, ?_, ?_⟩
  · unfold reference
    split
    · exact Text.endsInside_append _ (by decide)
    · cases style <;> exact Text.endsInside_append _ (by decide)
  · unfold reference
    split
    · simp only [Text.madeOf_append, made, and_true]
      refine ⟨⟨?_, ?_⟩, ?_⟩ <;> exact Text.madeOf_of_graphic given (by decide)
    · cases style <;>
        · simp only [Text.madeOf_append, made, and_true]
          constructor <;> exact Text.madeOf_of_graphic given (by decide)

namespace Rule

private theorem isGraphic_marks (name : Text) :
    (ofName name).marks.all Text.isGraphic = true :=
  forall_ofName (motive := fun rule => rule.marks.all Text.isGraphic = true)
    (by decide) (by decide) name

private theorem isFramed_marks (name given : Text) :
    Text.IsFramed given (ofName name).marks := by
  obtain ⟨inert, shows⟩ := marks_ofName name
  have occupied : (ofName name).marks ≠ [] := by
    intro nothing
    rw [nothing] at shows
    cases shows
  exact ⟨shows, Text.endsInside_of_isInert inert occupied,
    Text.madeOf_of_graphic given (isGraphic_marks name)⟩

/-- Whatever a tag has for an argument, its fragment is framed by marks. -/
theorem isFramed_fragment? {name fragment given : Text} {introducer : Char}
    {mention : Mention} {style : ReferenceStyle} {argument : Argument}
    (tagged : isIntroducer introducer = true)
    (introduced : mention.introducer = [introducer])
    (ofIntroducer : Text.MadeOf given mention.introducer)
    (ofTag : Text.MadeOf given mention.name)
    (ofText : Text.MadeOf given argument.text)
    (ofList : Text.MadeOf given argument.annotation)
    (written : (ofName name).fragment? mention style argument =
      some fragment) : Text.IsFramed given fragment := by
  have marks := isFramed_marks name given
  cases rule : ofName name with
  | parameter =>
      rw [rule] at written
      cases written
      refine ⟨rfl, Text.endsInside_append _ (by decide), ?_⟩
      simp only [Text.madeOf_append, ofText, ofList, and_true]
      refine ⟨⟨?_, ?_⟩, ?_⟩ <;> exact Text.madeOf_of_graphic given (by decide)
  | returnValue =>
      rw [rule] at written
      cases written
      refine ⟨rfl, Text.endsInside_append _ (by decide), ?_⟩
      simp only [Text.madeOf_append, ofText, and_true]
      constructor <;> exact Text.madeOf_of_graphic given (by decide)
  | span mark =>
      rw [rule] at written marks
      cases written
      have framed : Text.IsFramed given mark := marks
      refine ⟨?_, Text.endsInside_append _ framed.ends, ?_⟩
      · have shows := framed.shows
        cases mark with
        | nil => cases shows
        | cons first mark => exact shows
      · simp only [Text.madeOf_append, ofText, framed.made, and_true]
  | reference =>
      rw [rule] at written
      cases written
      exact style.isFramed_reference ofText
  | related =>
      rw [rule] at written
      cases written
      have framed := style.isFramed_reference ofText
      refine ⟨rfl, Text.endsInside_append _ framed.ends, ?_⟩
      rw [Text.madeOf_append]
      exact ⟨Text.madeOf_of_graphic given (by decide), framed.made⟩
  | lead markup =>
      rw [rule] at written marks
      cases written
      exact marks
  | verbatim =>
      rw [rule] at written
      cases written
      refine ⟨?_, Text.endsInside_append _ (by decide), ?_⟩
      · rw [introduced]
        rcases eq_of_isIntroducer tagged with rfl | rfl <;> rfl
      · simp only [Text.madeOf_append, ofIntroducer, ofTag, true_and]
        exact Text.madeOf_of_graphic given (by decide)
  | returned | silent =>
      rw [rule] at written
      cases written

end Rule

theorem Rule.isWordSeparator_of_mem_text {rule : Rule} {text rest : Text}
    {argument : Argument} (read : rule.read text = .ok (argument, rest))
    {character : Char} (member : character ∈ argument.text) :
    Text.isWordSeparator character = false := by
  rcases portions_of_read read with
    ⟨rfl, -, -⟩ | ⟨rfl, -, -⟩ | ⟨attributes, closed, -, rfl, -, -⟩
  · cases member
  · exact Text.isWordSeparator_of_mem_word member
  · exact Text.isWordSeparator_of_mem_word member

/-- The rule reads no argument, so its tag takes the blanks behind its name and
nothing more. -/
def Rule.isBare : Rule → Bool
  | .returned | .lead _ | .silent | .verbatim => true
  | .parameter | .returnValue | .span _ | .reference | .related => false

theorem Rule.read_of_isBare {rule : Rule} (bare : rule.isBare = true)
    (text : Text) : rule.read text = .ok (.absent, text) := by
  cases rule with
  | returned | lead | silent | verbatim => rfl
  | parameter | returnValue | span | reference | related => cases bare

theorem Rule.eq_of_fragment?_eq_none {rule : Rule} {mention : Mention}
    {style : ReferenceStyle} {argument : Argument}
    (written : rule.fragment? mention style argument = none) :
    rule = .returned ∨ rule = .silent := by
  cases rule with
  | returned => exact .inl rfl
  | silent => exact .inr rfl
  | parameter | returnValue | span | reference | related | lead | verbatim =>
      cases written

theorem Rule.isBare_of_fragment?_eq_none {rule : Rule} {mention : Mention}
    {style : ReferenceStyle} {argument : Argument}
    (written : rule.fragment? mention style argument = none) :
    rule.isBare = true := by
  rcases eq_of_fragment?_eq_none written with rfl | rfl
  · rfl
  · rfl

namespace Item

def isBare : Item → Bool
  | .copied _ => false
  | .tag used => (Rule.ofName used.name).isBare

theorem startsVisible_of_isBare {text rest : Text} {item : Item}
    (found : next? text = some (.ok (item, rest)))
    (bare : item.isBare = true) : rest.StartsVisible := by
  rcases next?_eq_ok_iff.mp found with
    ⟨character, behind, -, -, rfl, -⟩ |
    ⟨introducer, behind, argument, tagged, -, read, rfl⟩
  · cases bare
  · rw [Rule.read_of_isBare bare] at read
    cases read
    exact behind.behindWord.startsVisible_skipBlanks

end Item

namespace Tag

def given (used : Tag) : Text :=
  used.introducer :: used.name ++ used.argument.text ++ used.argument.annotation

theorem isFramed_fragment? (used : Tag) {style : ReferenceStyle}
    {fragment : Text} (written : Item.fragment? style (.tag used) = some fragment) :
    Text.IsFramed used.given fragment := by
  apply Rule.isFramed_fragment? used.tagged rfl _ _ _ _ written
  · exact Text.madeOf_of_subset (by simp [given])
  · exact Text.madeOf_of_subset fun _ member => by simp [given, member]
  · exact Text.madeOf_of_subset fun _ member => by simp [given, member]
  · exact Text.madeOf_of_subset fun _ member => by simp [given, member]

end Tag

end DocTag
