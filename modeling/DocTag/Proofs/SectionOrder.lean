import DocTag.Proofs.Run
import DocTag.Session.Step
import Mathlib.Data.List.Nodup
/-!
Sections under any steps, in any order.

A session need not be a conversion: its steps may read, dispatch tags, ensure
headings and write fragments as they come, and go on behind a step that failed.
Whatever the steps, each heading stands at most once, where its section was
first opened, with its blank line behind it.
-/

namespace DocTag

/-- The steps that leave headings to the sections: all but a rule applied
without its tag, and the writing of a heading, known or not, by other means. -/
def Step.Admitted : Step → Prop
  | .dispatch introducer _ =>
      ∃ character : Char, introducer = [character] ∧
        isIntroducer character = true
  | .ensureHeading heading => ∃ opened : Section, heading = opened.heading
  | .emit fragment => ∀ opened : Section, fragment.strip ≠ opened.heading
  | .rule _ _ _ => False
  | .peek | .advance | .exhausted | .takeWhile _ | .skipWhile _ | .take _
  | .readWord | .readAttributes | .skipBlanks | .hasHeading _ | .render => True

namespace Session

def after (session : Session) (steps : List Step) : Session :=
  (session.trace steps).getLast?.elim session Prod.snd

/-- The section a step opens: the one whose tag it dispatches, or whose heading
it ensures. -/
def opens? (session : Session) : Step → Option Section
  | .dispatch _ _ => Section.ofTag? session.cursor.readWord.1
  | .ensureHeading heading => Section.ofFragment? heading
  | _ => none

/-- The sections that steps open, in order, each as often as it is opened. -/
def openings (session : Session) : List Step → List Section
  | [] => []
  | step :: steps =>
      (session.opens? step).toList ++ (session.perform step).2.openings steps

def turn (style : ReferenceStyle) (session : Session) : List Step :=
  match session.cursor.peek? with
  | none => []
  | some character =>
      if isIntroducer character then
        [.advance, .dispatch [character] style]
      else if character = '\n' then
        [.advance, .skipBlanks, .emit [character]]
      else
        [.advance, .emit [character]]

theorem after_cons (session : Session) (step : Step) (steps : List Step) :
    session.after (step :: steps) = (session.perform step).2.after steps := by
  have traced : session.trace (step :: steps) =
      session.perform step :: (session.perform step).2.trace steps := rfl
  rw [after, traced, List.getLast?_cons, after]
  cases ((session.perform step).2.trace steps).getLast? <;> rfl

theorem after_append (session : Session) (front steps : List Step) :
    session.after (front ++ steps) = (session.after front).after steps := by
  induction front generalizing session with
  | nil => rfl
  | cons step front ih =>
      rw [List.cons_append, after_cons, after_cons, ih]

theorem mem_openings_iff {session : Session} {steps : List Step}
    {opened : Section} :
    opened ∈ session.openings steps ↔
      ∃ (earlier : List Step) (step : Step) (later : List Step),
        steps = earlier ++ step :: later ∧
          (session.after earlier).opens? step = some opened := by
  induction steps generalizing session with
  | nil =>
      apply iff_of_false
      · intro member
        cases member
      · rintro ⟨earlier, step, later, split, -⟩
        exact List.append_ne_nil_of_right_ne_nil earlier
          (List.cons_ne_nil step later) split.symm
  | cons first steps ih =>
      rw [openings, List.mem_append, Option.mem_toList, ih]
      constructor
      · rintro (now | ⟨earlier, step, later, rfl, opens⟩)
        · exact ⟨[], first, steps, rfl, now⟩
        · refine ⟨first :: earlier, step, later, rfl, ?_⟩
          rw [after_cons]
          exact opens
      · rintro ⟨earlier, step, later, split, opens⟩
        cases earlier with
        | nil =>
            cases split
            exact .inl opens
        | cons head earlier =>
            cases split
            rw [after_cons] at opens
            exact .inr ⟨earlier, step, later, rfl, opens⟩

theorem output_performed (reply : Reply)
    (outcome : Except AttributeFault Unit × Session) :
    (performed reply outcome).2 = outcome.2 := by
  obtain ⟨result, stopped⟩ := outcome
  cases result <;> rfl

/-- An admitted step opens at most its section, and writes at most one fragment
that is no heading. -/
theorem grows_perform (session : Session) {step : Step}
    (admitted : step.Admitted) :
    session.output.Grows (session.opens? step)
      (session.perform step).2.output := by
  cases step with
  | peek | advance | exhausted | takeWhile | skipWhile | take | readWord
  | skipBlanks | hasHeading | render => exact .opened
  | readAttributes =>
      have kept : (session.perform .readAttributes).2.output =
          session.output := by
        unfold perform moved
        cases session.cursor.readAttributes.1 <;> rfl
      rw [kept]
      exact .opened
  | emit fragment =>
      exact .wrote (Section.ofFragment?_eq_none_iff.mpr admitted)
  | ensureHeading heading =>
      obtain ⟨opened, rfl⟩ := admitted
      have asked : session.opens? (.ensureHeading opened.heading) =
          some opened := Section.ofFragment?_heading opened
      rw [asked]
      exact .opened
  | dispatch introducer style =>
      obtain ⟨character, rfl, tagged⟩ := admitted
      change session.output.Grows _ (performed .nothing _).2.output
      rw [output_performed]
      exact session.grows_dispatch style tagged
  | rule => cases admitted

theorem sections_after {session : Session} {steps : List Step}
    (prior : List Section) (admitted : ∀ step ∈ steps, step.Admitted)
    (ordered : session.output.sections = prior.eraseDups) :
    (session.after steps).output.sections =
      (prior ++ session.openings steps).eraseDups := by
  induction steps generalizing session prior with
  | nil =>
      rw [openings, List.append_nil]
      exact ordered
  | cons step steps ih =>
      have grows := session.grows_perform (admitted step List.mem_cons_self)
      have further := grows.sections_eq_eraseDups ordered
      rw [after_cons, openings, ← List.append_assoc]
      apply ih _ _ further
      intro other member
      exact admitted other (List.mem_cons_of_mem step member)

/-- What every growth keeps holds behind any steps. -/
theorem output_after {holds : Output → Prop} {session : Session}
    {steps : List Step}
    (keeps : ∀ (before after : Output) (asked? : Option Section),
      before.Grows asked? after → holds before → holds after)
    (admitted : ∀ step ∈ steps, step.Admitted) (held : holds session.output) :
    holds (session.after steps).output := by
  induction steps generalizing session with
  | nil => exact held
  | cons step steps ih =>
      have grows := session.grows_perform (admitted step List.mem_cons_self)
      rw [after_cons]
      apply ih _ (keeps _ _ _ grows held)
      intro other member
      exact admitted other (List.mem_cons_of_mem step member)

/-! ### Conversions as sequences of steps -/

private theorem turn_admitted (style : ReferenceStyle) (session : Session) :
    ∀ step ∈ session.turn style, step.Admitted := by
  unfold turn
  cases session.cursor.peek? with
  | none =>
      intro step member
      cases member
  | some character =>
      have plain : Step.Admitted (.emit [character]) :=
        Section.ofFragment?_eq_none_iff.mp
          (Section.ofFragment?_singleton character)
      simp only
      split
      · next tagged =>
          have tag : Step.Admitted (.dispatch [character] style) :=
            ⟨character, rfl, tagged⟩
          exact List.forall_mem_cons.mpr
            ⟨trivial, List.forall_mem_singleton.mpr tag⟩
      · split
        · exact List.forall_mem_cons.mpr ⟨trivial, List.forall_mem_cons.mpr
            ⟨trivial, List.forall_mem_singleton.mpr plain⟩⟩
        · exact List.forall_mem_cons.mpr
            ⟨trivial, List.forall_mem_singleton.mpr plain⟩

private theorem after_turn {style : ReferenceStyle} {session next : Session}
    {outcome : Except AttributeFault Unit}
    (taken : session.convertNext? style = some (outcome, next)) :
    session.after (session.turn style) = next := by
  unfold convertNext? Cursor.advance at taken
  unfold turn
  cases first : session.cursor.peek? with
  | none => rw [first] at taken; cases taken
  | some character =>
      rw [first] at taken
      simp only at taken ⊢
      by_cases tagged : isIntroducer character = true
      · rw [if_pos tagged] at taken ⊢
        rw [after_cons, after_cons]
        change (performed .nothing _).2 = next
        rw [output_performed]
        exact congrArg Prod.snd (Option.some.inj taken)
      · rw [if_neg tagged] at taken ⊢
        by_cases line : character = '\n'
        · rw [if_pos line] at taken ⊢
          cases taken
          rfl
        · rw [if_neg line] at taken ⊢
          cases taken
          rfl

theorem Run.after_turns {style : ReferenceStyle} {start session : Session}
    {passed : List Session} {outcome : Except AttributeFault Unit}
    (run : Run style start passed outcome session) :
    start.after (passed.flatMap (turn style)) = session := by
  induction run with
  | start => rfl
  | step run taken ih =>
      rw [List.flatMap_append, after_append, ih, List.flatMap_singleton]
      exact after_turn taken

variable {comment : Text} {steps : List Step}

theorem nodup_sections_after (admitted : ∀ step ∈ steps, step.Admitted) :
    ((ofText comment).after steps).output.sections.Nodup :=
  output_after (fun _ _ _ grows => grows.nodup_sections) admitted List.nodup_nil

theorem wellHeaded_after (admitted : ∀ step ∈ steps, step.Admitted) :
    ((ofText comment).after steps).output.WellHeaded := by
  apply output_after (fun _ _ _ grows => grows.wellHeaded) admitted
  intro before fragment behind opened split
  cases before <;> cases split

private theorem sections_after_ofText
    (admitted : ∀ step ∈ steps, step.Admitted) :
    ((ofText comment).after steps).output.sections =
      ((ofText comment).openings steps).eraseDups :=
  sections_after [] admitted rfl

private theorem countP_strip_after (admitted : ∀ step ∈ steps, step.Admitted)
    (opened : Section) :
    ((ofText comment).after steps).output.fragments.countP
        (fun fragment => fragment.strip = opened.heading) ≤ 1 ∧
      (((ofText comment).after steps).output.fragments.countP
          (fun fragment => fragment.strip = opened.heading) = 1 ↔
        opened ∈ (ofText comment).openings steps) := by
  have distinct : ((ofText comment).after steps).output.sections.Nodup :=
    nodup_sections_after admitted
  rw [Output.countP_strip_eq, ← List.mem_eraseDups,
    ← sections_after_ofText admitted]
  refine ⟨List.nodup_iff_count_le_one.mp distinct opened, ?_⟩
  constructor
  · intro once
    apply List.count_pos_iff.mp
    rw [once]
    exact Nat.one_pos
  · exact List.count_eq_one_of_mem distinct

end Session

/-- Under any admitted steps each section heading stands at most once, as it is
written and with its blank line behind it; it stands when a step has opened its
section, failed or not; and the headings stand in the order of first openings.
The turns of a conversion are such steps. -/
theorem sections_opened_once (comment : Text) :
    (∀ steps : List Step, (∀ step ∈ steps, step.Admitted) →
      (∀ opened : Section,
        ((Session.ofText comment).after steps).output.fragments.countP
            (fun fragment => fragment.strip = opened.heading) ≤ 1 ∧
        (((Session.ofText comment).after steps).output.fragments.countP
            (fun fragment => fragment.strip = opened.heading) = 1 ↔
          ∃ (earlier : List Step) (step : Step) (later : List Step),
            steps = earlier ++ step :: later ∧
              ((Session.ofText comment).after earlier).opens? step =
                some opened)) ∧
      (∀ (before : List Text) (fragment : Text) (behind : List Text)
        (opened : Section),
        ((Session.ofText comment).after steps).output.fragments =
            before ++ fragment :: behind →
          fragment.strip = opened.heading →
            fragment = opened.heading ∧
              ∃ rest : List Text, behind = "\n\n".toList :: rest) ∧
      ((Session.ofText comment).after steps).output.sections =
        ((Session.ofText comment).openings steps).eraseDups) ∧
    ∀ (style : ReferenceStyle) (passed : List Session)
      (outcome : Except AttributeFault Unit) (session : Session),
      Session.Run style (Session.started comment) passed outcome session →
        (∀ step ∈ .skipBlanks :: passed.flatMap (Session.turn style),
          step.Admitted) ∧
        (Session.ofText comment).after
          (.skipBlanks :: passed.flatMap (Session.turn style)) = session := by
  refine ⟨?_, ?_⟩
  · intro steps admitted
    refine ⟨?_, ?_, Session.sections_after_ofText admitted⟩
    · intro opened
      rw [← Session.mem_openings_iff]
      exact Session.countP_strip_after admitted opened
    · intro before fragment behind opened split same
      exact Session.wellHeaded_after admitted before fragment behind opened
        split (Section.ofFragment?_eq_some_iff.mpr same)
  · intro style passed outcome session run
    constructor
    · intro step member
      rcases List.mem_cons.mp member with rfl | member
      · trivial
      · obtain ⟨earlier, -, inTurn⟩ := List.mem_flatMap.mp member
        exact earlier.turn_admitted style step inTurn
    · rw [Session.after_cons]
      exact run.after_turns

/-- A `param` that fails leaves its heading behind, which is not repeated. -/
theorem sections_opened_once_failed :
    ∃ steps : List Step, (∀ step ∈ steps, step.Admitted) ∧
      ((Session.ofText "see a param".toList).trace steps).map Prod.fst =
        [.ok .nothing, .ok .nothing,
          .error (.attributes .openingMissing), .ok .nothing,
          .ok .nothing] ∧
      ((Session.ofText "see a param".toList).after steps).output.sections =
        [.seeAlso, .arguments] := by
  have admitted : ∀ step ∈ ([.dispatch ['@'] .code, .skipBlanks,
      .dispatch ['\\'] .intraDoc, .emit "# Arguments:".toList,
      .ensureHeading "# Arguments".toList] : List Step), step.Admitted := by
    simp only [List.forall_mem_cons]
    exact ⟨⟨'@', rfl, rfl⟩, trivial, ⟨'\\', rfl, rfl⟩,
      Section.ofFragment?_eq_none_iff.mp (by decide), ⟨.arguments, rfl⟩,
      fun _ member => by cases member⟩
  obtain ⟨-, -, ordered⟩ :=
    (sections_opened_once "see a param".toList).1 _ admitted
  refine ⟨_, admitted, by decide +kernel, ordered.trans ?_⟩
  decide +kernel

end DocTag
