import DocTag.Proofs.Discipline
import Mathlib.Data.List.DropRight
/-!
Which headings are found again.

A heading is looked for as it stands, among fragments that are stripped first.
So one with white space at an end is found in no output, however often it was
written; and one that is its own strip is found from the moment it is ensured,
since no step takes a fragment back.
-/

namespace DocTag

namespace Text

private theorem isSpace_ends_strip (text : Text) :
    (∀ first ∈ text.strip.head?, isSpace first = false) ∧
      ∀ last ∈ text.strip.getLast?, isSpace last = false := by
  constructor
  · intro first starts
    have kept : text.strip <+: text.dropWhile isSpace :=
      List.rdropWhile_prefix isSpace _
    obtain ⟨spaces, whole⟩ := kept
    have inner := List.head?_dropWhile_not isSpace text
    rw [← whole, List.head?_append, Option.mem_def.mp starts] at inner
    exact inner
  · intro last ends
    unfold strip stripEnd at ends
    rw [List.getLast?_reverse] at ends
    have inner :=
      List.head?_dropWhile_not isSpace (text.dropWhile isSpace).reverse
    rw [Option.mem_def.mp ends] at inner
    exact inner

theorem strip_eq_self_iff {text : Text} :
    text.strip = text ↔
      (∀ first ∈ text.head?, isSpace first = false) ∧
        ∀ last ∈ text.getLast?, isSpace last = false := by
  constructor
  · intro same
    rw [← same]
    exact text.isSpace_ends_strip
  · rintro ⟨startsVisible, endsVisible⟩
    have front : text.dropWhile isSpace = text := by
      cases text with
      | nil => rfl
      | cons first rest =>
          apply List.dropWhile_cons_of_neg
          rw [startsVisible first rfl]
          exact Bool.false_ne_true
    rw [strip, front]
    apply List.rdropWhile_eq_self_iff.mpr
    intro shown
    rw [endsVisible _ (List.getLast?_eq_some_getLast shown)]
    exact Bool.false_ne_true

theorem strip_strip (text : Text) : text.strip.strip = text.strip :=
  strip_eq_self_iff.mpr text.isSpace_ends_strip

end Text

namespace Output

variable {output : Output} {heading : Text}

theorem hasHeading_eq_true_iff :
    output.hasHeading heading = true ↔
      ∃ fragment ∈ output.fragments, fragment.strip = heading := by
  simp only [hasHeading, List.any_eq_true, decide_eq_true_iff]

/-- What is found is the strip of something, hence its own strip. -/
private theorem strip_eq_of_hasHeading
    (found : output.hasHeading heading = true) : heading.strip = heading := by
  obtain ⟨fragment, -, rfl⟩ := hasHeading_eq_true_iff.mp found
  exact fragment.strip_strip

private theorem hasHeading_of_prefix {later : Output}
    (kept : output.fragments <+: later.fragments)
    (found : output.hasHeading heading = true) :
    later.hasHeading heading = true := by
  obtain ⟨fragment, member, same⟩ := hasHeading_eq_true_iff.mp found
  exact hasHeading_eq_true_iff.mpr ⟨fragment, kept.subset member, same⟩

private theorem fragments_ensureHeading_of_absent
    (absent : output.hasHeading heading = false) :
    (output.ensureHeading heading).fragments =
      output.fragments ++ [heading, headingSeparator] := by
  unfold ensureHeading
  rw [if_neg (Bool.eq_false_iff.mp absent), fragments_emit, fragments_emit,
    List.append_assoc]
  rfl

theorem fragments_ensureHeading_eq_iff :
    (output.ensureHeading heading).fragments = output.fragments ↔
      output.hasHeading heading = true := by
  cases found : output.hasHeading heading with
  | true =>
      unfold ensureHeading
      rw [if_pos found]
      exact iff_of_true rfl rfl
  | false =>
      rw [fragments_ensureHeading_of_absent found, List.append_right_eq_self]
      exact iff_of_false (List.cons_ne_nil _ _) Bool.false_ne_true

/-- A heading that was ensured is found when it is its own strip, and only
then. -/
theorem hasHeading_ensureHeading_iff :
    (output.ensureHeading heading).hasHeading heading = true ↔
      heading.strip = heading := by
  constructor
  · exact strip_eq_of_hasHeading
  · intro stripped
    cases found : output.hasHeading heading with
    | true =>
        exact hasHeading_of_prefix (output.fragments_ensureHeading heading)
          found
    | false =>
        rw [hasHeading_eq_true_iff, fragments_ensureHeading_of_absent found]
        exact ⟨heading, List.mem_append_right _ List.mem_cons_self, stripped⟩

end Output

namespace Session

theorem fragments_after (session : Session) (steps : List Step) :
    session.output.fragments <+: (session.after steps).output.fragments := by
  induction steps generalizing session with
  | nil => exact List.prefix_refl _
  | cons step steps ih =>
      rw [after_cons]
      exact (session.fragments_perform step).trans (ih _)

theorem hasHeading_after {session : Session} {heading : Text}
    (found : session.output.hasHeading heading = true) (steps : List Step) :
    (session.after steps).output.hasHeading heading = true :=
  Output.hasHeading_of_prefix (session.fragments_after steps) found

private theorem output_after_ensureHeading (session : Session)
    (steps : List Step) (heading : Text) :
    (session.after (steps ++ [.ensureHeading heading])).output =
      (session.after steps).output.ensureHeading heading := by
  rw [after_append]
  rfl

end Session

/-- Whatever the output at the start and whatever the steps in between, a
heading that was ensured is not written by ensuring it again when it is its own
strip, and only then.  A heading that is found stays found; one that is not its
own strip is found nowhere, and is written each time it is ensured. -/
theorem ensureHeading_idempotent_iff (start : Session) (heading : Text)
    (steps : List Step) :
    ((start.after (.ensureHeading heading :: steps ++
          [.ensureHeading heading])).output.fragments =
        (start.after (.ensureHeading heading :: steps)).output.fragments ↔
      heading.strip = heading) ∧
    (start.output.hasHeading heading = true →
      (start.after steps).output.hasHeading heading = true) ∧
    (heading.strip ≠ heading →
      (start.after steps).output.hasHeading heading = false ∧
        (start.after (steps ++ [.ensureHeading heading])).output.fragments =
          (start.after steps).output.fragments ++
            [heading, "\n\n".toList]) := by
  refine ⟨?_, ?_, ?_⟩
  · rw [Session.output_after_ensureHeading,
      Output.fragments_ensureHeading_eq_iff, Session.after_cons]
    constructor
    · exact Output.strip_eq_of_hasHeading
    · intro stripped
      apply Session.hasHeading_after
      exact Output.hasHeading_ensureHeading_iff.mpr stripped
  · intro found
    exact Session.hasHeading_after found steps
  · intro spaced
    have absent : (start.after steps).output.hasHeading heading = false :=
      Bool.eq_false_iff.mpr (mt Output.strip_eq_of_hasHeading spaced)
    refine ⟨absent, ?_⟩
    rw [Session.output_after_ensureHeading]
    exact Output.fragments_ensureHeading_of_absent absent

/-- A blank line is found as the empty heading, also behind a `param` that
fails; a heading with a no-break space at its end is written each time. -/
theorem ensureHeading_idempotent_iff_blank_line :
    let start : Session := ⟨Cursor.ofText "param".toList, ⟨["\n\n".toList]⟩⟩
    let heading : Text := "# Notes\u00a0".toList
    start.output.hasHeading [] = true ∧
      (start.after [.dispatch ['@'] .code]).output.hasHeading [] = true ∧
      heading.strip ≠ heading ∧
      (start.after [.ensureHeading heading,
          .ensureHeading heading]).output.fragments =
        ["\n\n".toList, heading, "\n\n".toList, heading, "\n\n".toList] := by
  intro start heading
  have found : start.output.hasHeading [] = true := by decide
  have spaced : heading.strip ≠ heading := by decide
  obtain ⟨-, kept, -⟩ :=
    ensureHeading_idempotent_iff start [] [.dispatch ['@'] .code]
  obtain ⟨-, -, written⟩ :=
    ensureHeading_idempotent_iff start heading [.ensureHeading heading]
  refine ⟨found, kept found, spaced, (written spaced).2.trans ?_⟩
  decide

end DocTag
