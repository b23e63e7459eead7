import DocTag.Conversion
/-!
Which fragments can be taken for the heading of a section.

A section counts as open when some fragment, stripped, is its heading.  The
fragments that rules write for their arguments embed text of the comment, but
always behind a mark that no heading starts with; so a fragment is taken for a
heading only where one was written.  `Output.Grows` says what a step may do to
an output: open the one section its tag asks for, then write at most one
fragment that is no heading.
-/

namespace DocTag

private theorem Text.strip_cons {first : Char} (rest : Text)
    (visible : Text.isSpace first = false) :
    ∃ kept : Text, Text.strip (first :: rest) = first :: kept := by
  refine ⟨Text.stripEnd rest, ?_⟩
  unfold Text.strip Text.stripEnd
  rw [List.dropWhile_cons_of_neg (by simp [visible]), List.reverse_cons,
    List.dropWhile_append]
  split
  · next blank =>
      rw [List.isEmpty_iff] at blank
      simp [blank, visible]
  · rw [List.reverse_append]
    rfl

namespace Section

def tags : Section → List Text
  | .arguments => ["param".toList]
  | .returns => ["returns".toList, "return".toList, "result".toList]
  | .seeAlso => ["see".toList, "sa".toList]

def ofTag? (name : Text) : Option Section :=
  all.find? fun opened => opened.tags.contains name

/-- The section whose heading a fragment is, once it is stripped. -/
def ofFragment? (fragment : Text) : Option Section :=
  all.find? fun opened => fragment.strip = opened.heading

theorem mem_all (opened : Section) : opened ∈ all := by
  cases opened <;> decide

theorem heading_inj {first second : Section}
    (same : first.heading = second.heading) : first = second := by
  cases first <;> cases second <;> first | rfl | (revert same; decide)

private theorem heading_eq_cons (opened : Section) :
    ∃ rest : Text, opened.heading = '#' :: rest := by
  cases opened <;> exact ⟨_, rfl⟩

private theorem find?_all_eq_some_iff {holds : Section → Bool}
    (exclusive : ∀ first second : Section, holds first = true →
      holds second = true → first = second) {opened : Section} :
    all.find? holds = some opened ↔ holds opened = true := by
  constructor
  · exact List.find?_some
  · intro held
    cases found : all.find? holds with
    | none =>
        have absent := List.find?_eq_none.mp found opened opened.mem_all
        exact absurd held absent
    | some other =>
        rw [exclusive other opened (List.find?_some found) held]

theorem ofFragment?_eq_some_iff {fragment : Text} {opened : Section} :
    ofFragment? fragment = some opened ↔ fragment.strip = opened.heading := by
  unfold ofFragment?
  rw [find?_all_eq_some_iff, decide_eq_true_iff]
  intro first second isFirst isSecond
  rw [decide_eq_true_iff] at isFirst isSecond
  exact heading_inj (isFirst.symm.trans isSecond)

theorem ofFragment?_eq_none_iff {fragment : Text} :
    ofFragment? fragment = none ↔
      ∀ opened : Section, fragment.strip ≠ opened.heading := by
  simp [ofFragment?, mem_all]

theorem ofFragment?_heading (opened : Section) :
    ofFragment? opened.heading = some opened :=
  ofFragment?_eq_some_iff.mpr opened.strip_heading

private theorem ofFragment?_cons_eq_none {first : Char} (rest : Text)
    (visible : Text.isSpace first = false) (other : first ≠ '#') :
    ofFragment? (first :: rest) = none := by
  rw [ofFragment?_eq_none_iff]
  intro opened same
  obtain ⟨kept, stripped⟩ := Text.strip_cons rest visible
  obtain ⟨tail, heading⟩ := opened.heading_eq_cons
  rw [stripped, heading] at same
  exact other (List.cons.inj same).1

theorem ofFragment?_singleton (character : Char) :
    ofFragment? [character] = none := by
  rw [ofFragment?_eq_none_iff]
  intro opened same
  have short : (Text.strip [character]).length ≤ 1 := by
    unfold Text.strip Text.stripEnd
    by_cases space : Text.isSpace character <;> simp [space]
  rw [same] at short
  revert short
  cases opened <;> decide

theorem ofFragment?_separator :
    ofFragment? Output.headingSeparator = none := by
  decide

theorem ofTag?_eq_some_iff {name : Text} {opened : Section} :
    ofTag? name = some opened ↔ name ∈ opened.tags := by
  unfold ofTag?
  rw [find?_all_eq_some_iff, List.contains_iff_mem]
  intro first second isFirst isSecond
  rw [List.contains_iff_mem] at isFirst isSecond
  have disjoint : ∀ tag ∈ first.tags, tag ∈ second.tags → first = second := by
    cases first <;> cases second <;> decide
  exact disjoint name isFirst isSecond

end Section

namespace Rule

theorem mem_table_of_ofName?_eq_some {name : Text} {rule : Rule}
    (found : ofName? name = some rule) : (name, rule) ∈ table := by
  obtain ⟨before, behind, split, -⟩ := List.lookup_eq_some_iff.mp found
  rw [split]
  exact List.mem_append_right before (List.mem_cons_self)

theorem forall_ofName {motive : Rule → Prop}
    (listed : ∀ entry ∈ table, motive entry.2) (other : motive .verbatim)
    (name : Text) : motive (ofName name) := by
  unfold ofName
  cases found : ofName? name with
  | none => exact other
  | some rule =>
      exact listed (name, rule) (mem_table_of_ofName?_eq_some found)

theorem opens?_ofName (name : Text) :
    (ofName name).opens? = Section.ofTag? name := by
  cases found : ofName? name with
  | some rule =>
      have listed : ∀ entry ∈ table,
          entry.2.opens? = Section.ofTag? entry.1 := by
        decide
      unfold ofName
      rw [found]
      exact listed (name, rule) (mem_table_of_ofName?_eq_some found)
  | none =>
      have known : ∀ opened ∈ Section.all, ∀ tag ∈ opened.tags,
          (ofName? tag).isSome = true := by
        decide
      unfold ofName
      rw [found]
      cases tagged : Section.ofTag? name with
      | none => rfl
      | some opened =>
          have listed := known opened opened.mem_all name
            (Section.ofTag?_eq_some_iff.mp tagged)
          rw [found] at listed
          cases listed

def isPlain : Rule → Bool
  | .span mark =>
      mark.head?.any fun first => !Text.isSpace first && first != '#'
  | .lead markup => (Section.ofFragment? markup).isNone
  | _ => true

private theorem isPlain_ofName (name : Text) : (ofName name).isPlain = true :=
  forall_ofName (motive := fun rule => rule.isPlain = true) (by decide) rfl name

end Rule

theorem eq_of_isIntroducer {introducer : Char}
    (tagged : isIntroducer introducer = true) :
    introducer = '@' ∨ introducer = '\\' := by
  simpa [isIntroducer, introducers] using tagged

private theorem isSpace_eq_false_of_isIntroducer {introducer : Char}
    (tagged : isIntroducer introducer = true) :
    Text.isSpace introducer = false ∧ introducer ≠ '#' := by
  rcases eq_of_isIntroducer tagged with rfl | rfl <;> decide

private theorem ReferenceStyle.ofFragment?_reference (style : ReferenceStyle)
    (target : Text) : Section.ofFragment? (style.reference target) = none := by
  unfold reference
  split
  · exact Section.ofFragment?_cons_eq_none _ (by decide) (by decide)
  · cases style <;>
      exact Section.ofFragment?_cons_eq_none _ (by decide) (by decide)

/-- No rule of the table, nor the rule for other names, writes a fragment that
can be taken for a heading, whatever its argument holds. -/
theorem Rule.ofFragment?_fragment? {name fragment : Text} {introducer : Char}
    {mention : Mention} {style : ReferenceStyle} {argument : Argument}
    (tagged : isIntroducer introducer = true)
    (introduced : mention.introducer = [introducer])
    (written : (Rule.ofName name).fragment? mention style argument =
      some fragment) :
    Section.ofFragment? fragment = none := by
  have plain := Rule.isPlain_ofName name
  cases rule : Rule.ofName name with
  | parameter | returnValue | related =>
      rw [rule] at written
      cases written
      exact Section.ofFragment?_cons_eq_none _ (by decide) (by decide)
  | span mark =>
      rw [rule] at written plain
      cases written
      cases mark with
      | nil => cases plain
      | cons first rest =>
          have marked : Text.isSpace first = false ∧ first ≠ '#' := by
            simpa [isPlain] using plain
          exact Section.ofFragment?_cons_eq_none _ marked.1 marked.2
  | reference =>
      rw [rule] at written
      cases written
      exact style.ofFragment?_reference _
  | lead markup =>
      rw [rule] at written plain
      cases written
      simpa [isPlain] using plain
  | verbatim =>
      rw [rule] at written
      cases written
      rw [introduced]
      have marked := isSpace_eq_false_of_isIntroducer tagged
      exact Section.ofFragment?_cons_eq_none _ marked.1 marked.2
  | returned | silent =>
      rw [rule] at written
      cases written

end DocTag
