import DocTag.Proofs.Heading
import DocTag.Proofs.Reading
/-!
The sections an output holds, and how an output grows.

A step opens at most the one section its tag asks for, and then writes at most
one fragment that is no heading.  From that alone it follows what any number
of steps leave behind: each section once, in the order of first openings, with
its heading and the blank line side by side.
-/

namespace DocTag

namespace Output

def sections (output : Output) : List Section :=
  output.fragments.filterMap Section.ofFragment?

def opening (output : Output) (asked? : Option Section) : Output :=
  asked?.elim output output.openSection

/-- What one step does to an output: it opens the section that is asked for,
and writes at most one fragment, which is no heading. -/
inductive Grows (output : Output) (asked? : Option Section) : Output → Prop
  | opened : Grows output asked? (output.opening asked?)
  | wrote {fragment : Text} (plain : Section.ofFragment? fragment = none) :
      Grows output asked? ((output.opening asked?).emit fragment)

/-- Every fragment that is taken for a heading is one, and the blank line
stands behind it. -/
def WellHeaded (output : Output) : Prop :=
  ∀ (before : List Text) (fragment : Text) (behind : List Text)
    (opened : Section), output.fragments = before ++ fragment :: behind →
    Section.ofFragment? fragment = some opened →
    fragment = opened.heading ∧
      ∃ rest : List Text, behind = headingSeparator :: rest

theorem hasHeading_heading_iff {output : Output} {opened : Section} :
    output.hasHeading opened.heading = true ↔ opened ∈ output.sections := by
  simp [hasHeading, sections, Section.ofFragment?_eq_some_iff]

theorem countP_strip_eq (output : Output) (opened : Section) :
    output.fragments.countP (fun fragment => fragment.strip = opened.heading) =
      output.sections.count opened := by
  rw [sections, List.count, List.countP_filterMap]
  apply List.countP_congr
  intro fragment _
  rw [decide_eq_true_iff, ← Section.ofFragment?_eq_some_iff]
  cases Section.ofFragment? fragment <;> simp

theorem sections_emit (output : Output) (fragment : Text) :
    (output.emit fragment).sections =
      output.sections ++ (Section.ofFragment? fragment).toList := by
  rw [sections, fragments_emit, List.filterMap_append]
  cases found : Section.ofFragment? fragment <;>
    simp [sections, found]

theorem openSection_of_mem {output : Output} {opened : Section}
    (isOpen : opened ∈ output.sections) :
    output.openSection opened = output := by
  unfold openSection ensureHeading
  rw [if_pos (hasHeading_heading_iff.mpr isOpen)]

theorem openSection_of_not_mem {output : Output} {opened : Section}
    (isNew : opened ∉ output.sections) :
    output.openSection opened =
      (output.emit opened.heading).emit headingSeparator := by
  unfold openSection ensureHeading
  rw [if_neg (mt hasHeading_heading_iff.mp isNew)]

private theorem sections_openSection_of_not_mem {output : Output}
    {opened : Section} (isNew : opened ∉ output.sections) :
    (output.openSection opened).sections = output.sections ++ [opened] := by
  rw [openSection_of_not_mem isNew, sections_emit, sections_emit,
    Section.ofFragment?_heading, Section.ofFragment?_separator,
    Option.toList_some, Option.toList_none, List.append_nil]

private theorem Grows.sections_eq_opening {before after : Output}
    {asked? : Option Section} (grows : before.Grows asked? after) :
    after.sections = (before.opening asked?).sections := by
  cases grows with
  | opened => rfl
  | wrote plain =>
      rw [sections_emit, plain, Option.toList_none, List.append_nil]

theorem Grows.mem_sections_iff {before after : Output}
    {asked? : Option Section} (grows : before.Grows asked? after)
    (opened : Section) :
    opened ∈ after.sections ↔
      opened ∈ before.sections ∨ asked? = some opened := by
  rw [grows.sections_eq_opening]
  cases asked? with
  | none => simp [opening]
  | some asked =>
      change opened ∈ (before.openSection asked).sections ↔ _
      by_cases isOpen : asked ∈ before.sections
      · rw [openSection_of_mem isOpen]
        constructor
        · exact .inl
        · rintro (kept | same)
          · exact kept
          · cases same
            exact isOpen
      · rw [sections_openSection_of_not_mem isOpen, List.mem_append,
          List.mem_singleton, Option.some_inj, eq_comm (a := opened)]

private theorem eraseDups_concat (prior : List Section) (opened : Section) :
    (prior ++ [opened]).eraseDups =
      if opened ∈ prior then prior.eraseDups
      else prior.eraseDups ++ [opened] := by
  rw [List.eraseDups_append]
  by_cases known : opened ∈ prior <;>
    simp [List.removeAll, known, List.eraseDups_cons]

/-- Sections that stand in the order of their first openings still do after one
more opening. -/
theorem Grows.sections_eq_eraseDups {before after : Output}
    {asked? : Option Section} {prior : List Section}
    (grows : before.Grows asked? after)
    (ordered : before.sections = prior.eraseDups) :
    after.sections = (prior ++ asked?.toList).eraseDups := by
  rw [grows.sections_eq_opening]
  cases asked? with
  | none =>
      rw [Option.toList_none, List.append_nil]
      exact ordered
  | some asked =>
      have known : asked ∈ before.sections ↔ asked ∈ prior := by
        rw [ordered, List.mem_eraseDups]
      rw [Option.toList_some, eraseDups_concat]
      change (before.openSection asked).sections = _
      by_cases isOpen : asked ∈ prior
      · rw [if_pos isOpen, openSection_of_mem (known.mpr isOpen)]
        exact ordered
      · rw [if_neg isOpen,
          sections_openSection_of_not_mem (mt known.mp isOpen), ordered]

theorem Grows.nodup_sections {before after : Output}
    {asked? : Option Section} (grows : before.Grows asked? after)
    (distinct : before.sections.Nodup) : after.sections.Nodup := by
  rw [grows.sections_eq_opening]
  cases asked? with
  | none => exact distinct
  | some asked =>
      change (before.openSection asked).sections.Nodup
      by_cases isOpen : asked ∈ before.sections
      · rw [openSection_of_mem isOpen]
        exact distinct
      · rw [sections_openSection_of_not_mem isOpen, List.nodup_append]
        refine ⟨distinct, List.pairwise_singleton _ asked, ?_⟩
        intro opened member other last same
        rw [List.mem_singleton.mp last] at same
        exact isOpen (same ▸ member)

private theorem concat_eq_append_cons {fragments before behind : List Text}
    {last fragment : Text}
    (split : fragments ++ [last] = before ++ fragment :: behind) :
    (behind = [] ∧ fragment = last) ∨
      ∃ front : List Text, behind = front ++ [last] ∧
        fragments = before ++ fragment :: front := by
  rcases List.eq_nil_or_concat behind with rfl | ⟨front, final, rfl⟩
  · have ends := List.append_inj_right' split rfl
    exact .inl ⟨rfl, (List.cons.inj ends).1.symm⟩
  · rw [List.concat_eq_append] at split ⊢
    rw [← List.cons_append, ← List.append_assoc] at split
    obtain ⟨fronts, ends⟩ := List.append_inj' split rfl
    obtain rfl := (List.cons.inj ends).1
    exact .inr ⟨front, rfl, fronts⟩

theorem WellHeaded.emit {output : Output} (headed : output.WellHeaded)
    {fragment : Text} (plain : Section.ofFragment? fragment = none) :
    (output.emit fragment).WellHeaded := by
  intro before heading behind opened split found
  rw [fragments_emit] at split
  rcases concat_eq_append_cons split with ⟨-, rfl⟩ | ⟨front, rfl, earlier⟩
  · rw [plain] at found
    cases found
  · obtain ⟨same, rest, rfl⟩ :=
      headed before heading front opened earlier found
    exact ⟨same, rest ++ [fragment], rfl⟩

theorem WellHeaded.openSection {output : Output} (headed : output.WellHeaded)
    (asked : Section) : (output.openSection asked).WellHeaded := by
  by_cases isOpen : asked ∈ output.sections
  · rw [openSection_of_mem isOpen]
    exact headed
  · rw [openSection_of_not_mem isOpen]
    intro before fragment behind opened split found
    rw [fragments_emit, fragments_emit] at split
    rcases concat_eq_append_cons split with ⟨-, rfl⟩ | ⟨front, rfl, inner⟩
    · rw [Section.ofFragment?_separator] at found
      cases found
    · rcases concat_eq_append_cons inner with ⟨rfl, rfl⟩ | ⟨rest, rfl, earlier⟩
      · rw [Section.ofFragment?_heading] at found
        cases found
        exact ⟨rfl, [], rfl⟩
      · obtain ⟨same, between, rfl⟩ :=
          headed before fragment rest opened earlier found
        exact ⟨same, between ++ [asked.heading] ++ [headingSeparator], rfl⟩

theorem Grows.wellHeaded {before after : Output} {asked? : Option Section}
    (grows : before.Grows asked? after) (headed : before.WellHeaded) :
    after.WellHeaded := by
  have opening : (before.opening asked?).WellHeaded := by
    cases asked? with
    | none => exact headed
    | some opened => exact headed.openSection opened
  cases grows with
  | opened => exact opening
  | wrote plain => exact opening.emit plain

end Output

namespace Session

private theorem grows_applyRule {name : Text} {introducer : Char}
    {mention : Mention} (session : Session) (style : ReferenceStyle)
    (tagged : isIntroducer introducer = true)
    (introduced : mention.introducer = [introducer]) :
    session.output.Grows (Rule.ofName name).opens?
      (session.applyRule (Rule.ofName name) mention style).2.output := by
  unfold applyRule
  cases reading : session.cursor.readArgument (Rule.ofName name) with
  | mk outcome after =>
      cases outcome with
      | error fault => exact .opened
      | ok argument =>
          cases written :
              (Rule.ofName name).fragment? mention style argument with
          | none =>
              simp only [written]
              exact .opened
          | some fragment =>
              simp only [written]
              exact .wrote
                (Rule.ofFragment?_fragment? tagged introduced written)

/-- A dispatch opens the section of the tag it reads, also when it fails. -/
theorem grows_dispatch {introducer : Char} (session : Session)
    (style : ReferenceStyle) (tagged : isIntroducer introducer = true) :
    session.output.Grows (Section.ofTag? session.cursor.ahead.word)
      (session.dispatch [introducer] style).2.output := by
  rw [← Rule.opens?_ofName]
  exact grows_applyRule ⟨session.cursor.readWord.2.skipBlanks, session.output⟩
    style tagged rfl

end Session
end DocTag
