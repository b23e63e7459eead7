import DocTag.Proofs.Failure
import DocTag.Proofs.Passage
import DocTag.Proofs.SectionOrder
/-!
What a step of a session does to its cursor and its output.

The steps of a session come in any order and go on behind a step that failed.
Whatever the step, the cursor stays on its text and moves forward only, what a
reader returns is the slice of the text that it passed, and the fragments
written before stay where they are.  A step that fails leaves a session that is
told exactly: how far its cursor went, and whether its section was opened.
-/

namespace DocTag

def Step.IsReading : Step → Prop
  | .emit _ | .ensureHeading _ | .dispatch _ _ | .rule _ _ _ => False
  | .peek | .advance | .exhausted | .takeWhile _ | .skipWhile _ | .take _
  | .readWord | .readAttributes | .skipBlanks | .hasHeading _ | .render => True

/-- The outcome of a step that returns what it has passed of a text, from one
position to another.  An attribute list is returned without its brackets. -/
def Step.ReturnsSlice (text : Text) (start stop : Nat)
    (outcome : Except StepFault Reply) : Step → Prop
  | .advance => ∃ read? : Option Char, outcome = .ok (.character read?) ∧
      read?.toList = text.extract start stop
  | .takeWhile _ | .readWord =>
      outcome = .ok (.text (text.extract start stop))
  | .take _ => outcome = .ok (.characters (text.extract start stop))
  | .readAttributes =>
      (start + 2 ≤ stop ∧
          outcome = .ok (.text (text.extract (start + 1) (stop - 1)))) ∨
        ∃ fault : AttributeFault, outcome = .error (.attributes fault)
  | _ => True

/-- Where a cursor stops when it misses a bracket: behind the character in
place of the opening one, if there is any, or at the end of the text. -/
def Cursor.StopsAt (cursor : Cursor) (stopped : Cursor) :
    AttributeFault → Prop
  | .openingMissing =>
      stopped.position = min (cursor.position + 1) cursor.text.length
  | .closingMissing => stopped.position = cursor.text.length

def Output.argumentsHeading (output : Output) : List Text :=
  if ∃ fragment ∈ output.fragments,
      fragment.strip = "# Arguments".toList then []
  else ["# Arguments".toList, "\n\n".toList]

namespace Session

/-- The ways in which a step fails, and the session each of them leaves. -/
inductive Fails (before after : Session) : Step → StepFault → Prop
  | list {fault : AttributeFault} (kept : after.output = before.output)
      (stopped : before.cursor.StopsAt after.cursor fault) :
      Fails before after .readAttributes (.attributes fault)
  | parameter {mention : Mention} {style : ReferenceStyle}
      {fault : AttributeFault}
      (opened : after.output.fragments =
        before.output.fragments ++ before.output.argumentsHeading)
      (stopped : before.cursor.StopsAt after.cursor fault) :
      Fails before after (.rule (some "param".toList) mention style)
        (.attributes fault)
  | dispatch {introducer : Text} {style : ReferenceStyle}
      {fault : AttributeFault}
      (name : before.cursor.readWord.1 = "param".toList)
      (opened : after.output.fragments =
        before.output.fragments ++ before.output.argumentsHeading)
      (atEnd : after.cursor.position = before.cursor.text.length) :
      Fails before after (.dispatch introducer style) (.attributes fault)
  | unknownRule {name : Text} {mention : Mention} {style : ReferenceStyle}
      (unlisted : Rule.ofName? name = none) (same : after = before) :
      Fails before after (.rule (some name) mention style) (.unknownRule name)

structure Disciplined (text : Text) (before : Session) (step : Step)
    (outcome : Except StepFault Reply) (after : Session) : Prop where
  position_le : before.cursor.position ≤ after.cursor.position
  position_le_length : after.cursor.position ≤ text.length
  returned : step.ReturnsSlice text before.cursor.position
    after.cursor.position outcome
  fragments_kept : before.output.fragments <+: after.output.fragments
  output_kept : step.IsReading → after.output = before.output
  failed : ∀ fault : StepFault, outcome = .error fault →
    before.Fails after step fault

theorem perform_readAttributes (session : Session) :
    session.perform .readAttributes =
      ((session.cursor.readAttributes.1.map Reply.text).mapError
          StepFault.attributes,
        { session with cursor := session.cursor.readAttributes.2 }) := by
  unfold perform moved
  cases session.cursor.readAttributes.1 <;> rfl

theorem precedes_perform (session : Session) (step : Step) :
    session.cursor.Precedes (session.perform step).2.cursor := by
  cases step with
  | peek | exhausted | emit | ensureHeading | hasHeading | render =>
      exact .refl session.cursor
  | advance | takeWhile | skipWhile | take | readWord | skipBlanks =>
      exact ⟨_, rfl⟩
  | readAttributes =>
      rw [perform_readAttributes]
      exact session.cursor.precedes_readAttributes
  | dispatch introducer style =>
      change session.cursor.Precedes (performed .nothing _).2.cursor
      rw [output_performed]
      exact session.precedes_dispatch introducer style
  | rule name? mention style =>
      cases name? with
      | none =>
          change session.cursor.Precedes (performed .nothing _).2.cursor
          rw [output_performed]
          exact session.precedes_applyRule .verbatim mention style
      | some name =>
          simp only [perform]
          split
          · next rule _ =>
              rw [output_performed]
              exact session.precedes_applyRule rule mention style
          · exact .refl session.cursor

theorem returnsSlice_perform (session : Session) (step : Step) :
    step.ReturnsSlice session.cursor.text session.cursor.position
      (session.perform step).2.cursor.position (session.perform step).1 := by
  cases step with
  | peek | exhausted | skipWhile | skipBlanks | emit | ensureHeading
  | hasHeading | render | dispatch | rule => trivial
  | advance =>
      have passed := session.cursor.extract_forward 1
      refine ⟨session.cursor.peek?, rfl, ?_⟩
      refine Eq.trans ?_ passed.symm
      rw [Cursor.peek?]
      cases session.cursor.ahead <;> rfl
  | takeWhile chars =>
      have passed := session.cursor.extract_takeWhile chars.holds
      exact congrArg (Except.ok ∘ Reply.text) passed.symm
  | readWord =>
      have passed := session.cursor.extract_takeWhile
        fun character => !Text.isWordSeparator character
      exact congrArg (Except.ok ∘ Reply.text) passed.symm
  | take limit? =>
      have passed := session.cursor.extract_forward
        (limit?.getD session.cursor.ahead.length)
      exact congrArg (Except.ok ∘ Reply.characters) passed.symm
  | readAttributes =>
      rw [perform_readAttributes]
      cases read : session.cursor.readAttributes with
      | mk outcome stopped =>
          cases outcome with
          | error fault => exact .inr ⟨fault, rfl⟩
          | ok attributes =>
              obtain ⟨bound, inside⟩ := Cursor.extract_readAttributes read
              refine .inl ⟨bound, ?_⟩
              exact congrArg (Except.ok ∘ Reply.text) inside.symm

end Session

namespace Output

theorem fragments_ensureHeading (output : Output) (heading : Text) :
    output.fragments <+: (output.ensureHeading heading).fragments := by
  unfold ensureHeading
  split
  · exact List.prefix_refl _
  · rw [fragments_emit, fragments_emit, List.append_assoc]
    exact List.prefix_append _ _

private theorem fragments_openSection_arguments (output : Output) :
    (output.openSection .arguments).fragments =
      output.fragments ++ output.argumentsHeading := by
  have found : output.hasHeading Section.arguments.heading = true ↔
      ∃ fragment ∈ output.fragments,
        fragment.strip = "# Arguments".toList := by
    simp only [hasHeading, List.any_eq_true, decide_eq_true_iff]
    rfl
  unfold openSection ensureHeading argumentsHeading
  by_cases present : output.hasHeading Section.arguments.heading = true
  · rw [if_pos present, if_pos (found.mp present), List.append_nil]
  · rw [if_neg present, if_neg (mt found.mpr present), fragments_emit,
      fragments_emit, List.append_assoc]
    rfl

end Output

namespace Session

theorem dispatch_eq (session : Session) (introducer : Text)
    (style : ReferenceStyle) :
    session.dispatch introducer style =
      applyRule ⟨session.cursor.readWord.2.skipBlanks, session.output⟩
        (Rule.ofName session.cursor.readWord.1)
        ⟨introducer, session.cursor.readWord.1⟩ style :=
  rfl

private theorem fragments_applyRule (session : Session) (rule : Rule)
    (mention : Mention) (style : ReferenceStyle) :
    session.output.fragments <+:
      (session.applyRule rule mention style).2.output.fragments := by
  have opened : session.output.fragments <+:
      ((rule.opens?).elim session.output
        session.output.openSection).fragments := by
    cases rule.opens? with
    | none => exact List.prefix_refl _
    | some asked => exact session.output.fragments_ensureHeading asked.heading
  unfold applyRule
  cases session.cursor.readArgument rule with
  | mk outcome after =>
      cases outcome with
      | error fault => exact opened
      | ok argument =>
          cases written : rule.fragment? mention style argument with
          | none =>
              simp only [written]
              exact opened
          | some fragment =>
              simp only [written, Option.elim_some, Output.fragments_emit]
              exact opened.trans (List.prefix_append _ _)

theorem fragments_perform (session : Session) (step : Step) :
    session.output.fragments <+:
      (session.perform step).2.output.fragments := by
  cases step with
  | peek | exhausted | hasHeading | render | advance | takeWhile | skipWhile
  | take | readWord | skipBlanks => exact List.prefix_refl _
  | readAttributes =>
      rw [perform_readAttributes]
  | emit fragment =>
      change session.output.fragments <+:
        (session.output.emit fragment).fragments
      rw [Output.fragments_emit]
      exact List.prefix_append _ _
  | ensureHeading heading =>
      exact session.output.fragments_ensureHeading heading
  | dispatch introducer style =>
      change _ <+: (performed .nothing _).2.output.fragments
      rw [output_performed, dispatch_eq]
      exact fragments_applyRule
        ⟨session.cursor.readWord.2.skipBlanks, session.output⟩ _ _ _
  | rule name? mention style =>
      cases name? with
      | none =>
          change _ <+: (performed .nothing _).2.output.fragments
          rw [output_performed]
          exact fragments_applyRule _ _ _ _
      | some name =>
          simp only [perform]
          split
          · rw [output_performed]
            exact fragments_applyRule _ _ _ _
          · exact List.prefix_refl _

/-! ### Failures -/

private theorem stopsAt_of_readAttributes {cursor stopped : Cursor}
    {fault : AttributeFault}
    (failed : cursor.readAttributes = (.error fault, stopped)) :
    cursor.StopsAt stopped fault := by
  rw [Cursor.readAttributes_eq_forward] at failed
  split at failed
  · cases failed
  · cases failed
    rw [Cursor.StopsAt, Cursor.position_forward, Cursor.length_text]
    omega
  · cases failed
    rw [Cursor.StopsAt, Cursor.position_forward, Cursor.length_text,
      Nat.min_self]

private theorem readAttributes_of_readParameter {cursor stopped : Cursor}
    {fault : AttributeFault}
    (failed : cursor.readParameter = (.error fault, stopped)) :
    cursor.readAttributes = (.error fault, stopped) := by
  unfold Cursor.readParameter at failed
  split at failed
  · next start named =>
      have here : cursor.readWord.2 =
          cursor.forward cursor.readWord.1.length := rfl
      rw [named] at here
      change start = cursor at here
      split at failed
      · next listed =>
          cases failed
          rw [← here, listed]
      · cases failed
  · cases failed

/-- A rule that fails has opened the section of the arguments, and stops where
it misses a bracket. -/
private theorem applyRule_eq_error {session stopped : Session} {rule : Rule}
    {mention : Mention} {style : ReferenceStyle} {fault : AttributeFault}
    (failed : session.applyRule rule mention style = (.error fault, stopped)) :
    rule.read session.cursor.ahead = .error fault ∧
      stopped.output.fragments =
        session.output.fragments ++ session.output.argumentsHeading ∧
      session.cursor.StopsAt stopped.cursor fault := by
  have view := session.cursor.view_readArgument rule
  unfold applyRule at failed
  cases reading : session.cursor.readArgument rule with
  | mk outcome after =>
      rw [reading] at failed view
      cases outcome with
      | ok argument => cases failed
      | error lacking =>
          cases failed
          refine ⟨view.symm, ?_⟩
          cases rule with
          | parameter =>
              exact ⟨session.output.fragments_openSection_arguments,
                stopsAt_of_readAttributes
                  (readAttributes_of_readParameter reading)⟩
          | returnValue | span | reference | related | returned | lead
          | silent | verbatim => cases reading

/-- A dispatch that fails has read the name of a parameter, and stops at the
end of the text. -/
private theorem dispatch_eq_error {session stopped : Session}
    {introducer : Text} {style : ReferenceStyle} {fault : AttributeFault}
    (failed : session.dispatch introducer style = (.error fault, stopped)) :
    session.cursor.readWord.1 = "param".toList ∧
      stopped.output.fragments =
        session.output.fragments ++ session.output.argumentsHeading ∧
      stopped.cursor.position = session.cursor.text.length := by
  rw [dispatch_eq] at failed
  obtain ⟨read, opened, stops⟩ := applyRule_eq_error failed
  obtain ⟨name, argument⟩ := Rule.read_ofName_eq_error_iff.mp read
  refine ⟨name, opened, ?_⟩
  have start := session.cursor.precedes_readWord.trans
    session.cursor.readWord.2.precedes_skipBlanks
  rw [← start.text_eq]
  rw [Cursor.ahead_skipBlanks] at argument
  rw [Text.readParameter_skipBlanks_eq_error_iff] at argument
  rcases argument with ⟨nothing, rfl⟩ | ⟨-, rfl⟩
  · -- Nothing is left in front of which the opening bracket could be missed.
    rw [← Cursor.ahead_skipBlanks] at nothing
    rw [Cursor.StopsAt, Cursor.position_eq_length_text nothing] at stops
    rw [stops, Nat.min_eq_right (Nat.le_succ _)]
  · exact stops

private theorem performed_eq_error {reply : Reply} {fault : StepFault}
    {outcome : Except AttributeFault Unit × Session}
    (failed : (performed reply outcome).1 = .error fault) :
    ∃ lacking : AttributeFault, fault = .attributes lacking ∧
      outcome = (.error lacking, outcome.2) := by
  obtain ⟨result, stopped⟩ := outcome
  cases result with
  | ok done => cases failed
  | error lacking => cases failed; exact ⟨lacking, rfl, rfl⟩

private theorem fails_rule {session : Session} {name : Text} {mention : Mention}
    {style : ReferenceStyle} {fault : StepFault}
    (failed : (session.perform (.rule (some name) mention style)).1 =
      .error fault) :
    session.Fails (session.perform (.rule (some name) mention style)).2
      (.rule (some name) mention style) fault := by
  simp only [perform] at failed ⊢
  cases found : Rule.ofName? name with
  | none =>
      simp only [found] at failed ⊢
      cases failed
      exact .unknownRule found rfl
  | some rule =>
      simp only [found] at failed ⊢
      obtain ⟨lacking, rfl, stopped⟩ := performed_eq_error failed
      obtain ⟨read, opened, stops⟩ := applyRule_eq_error stopped
      have named : Rule.ofName name = rule := by
        rw [Rule.ofName, found]
        rfl
      rw [← named] at read
      obtain ⟨rfl, -⟩ := Rule.read_ofName_eq_error_iff.mp read
      rw [output_performed]
      exact .parameter opened stops

/-- A step fails in one of four ways, and leaves the session it is said to. -/
theorem fails_perform {session : Session} {step : Step} {fault : StepFault}
    (failed : (session.perform step).1 = .error fault) :
    session.Fails (session.perform step).2 step fault := by
  cases step with
  | peek | advance | exhausted | takeWhile | skipWhile | take | readWord
  | skipBlanks | emit | ensureHeading | hasHeading | render => cases failed
  | readAttributes =>
      rw [perform_readAttributes] at failed ⊢
      cases read : session.cursor.readAttributes with
      | mk outcome stopped =>
          rw [read] at failed
          cases outcome with
          | ok attributes => cases failed
          | error lacking =>
              cases failed
              exact .list rfl (stopsAt_of_readAttributes read)
  | dispatch introducer style =>
      obtain ⟨lacking, rfl, stopped⟩ := performed_eq_error failed
      obtain ⟨name, opened, atEnd⟩ := dispatch_eq_error stopped
      change session.Fails (performed .nothing _).2 _ _
      rw [output_performed]
      exact .dispatch name opened atEnd
  | rule name? mention style =>
      cases name? with
      | some name => exact fails_rule failed
      | none =>
          obtain ⟨lacking, rfl, stopped⟩ := performed_eq_error failed
          cases (applyRule_eq_error stopped).1

theorem output_perform (session : Session) {step : Step}
    (reading : step.IsReading) :
    (session.perform step).2.output = session.output := by
  cases step with
  | peek | exhausted | hasHeading | render | advance | takeWhile | skipWhile
  | take | readWord | skipBlanks => rfl
  | readAttributes => rw [perform_readAttributes]
  | emit | ensureHeading | dispatch | rule => cases reading

theorem disciplined_perform (session : Session) (step : Step) :
    Disciplined session.cursor.text session step (session.perform step).1
      (session.perform step).2 where
  position_le := (session.precedes_perform step).position_le
  position_le_length := by
    rw [← (session.precedes_perform step).text_eq, Cursor.length_text]
    exact Nat.le_add_right _ _
  returned := session.returnsSlice_perform step
  fragments_kept := session.fragments_perform step
  output_kept := session.output_perform
  failed := fun _ failed => fails_perform failed

theorem text_after (session : Session) (steps : List Step) :
    (session.after steps).cursor.text = session.cursor.text := by
  induction steps generalizing session with
  | nil => rfl
  | cons step steps ih =>
      rw [after_cons, ih]
      exact (session.precedes_perform step).text_eq

theorem getElem?_trace (session : Session) (earlier : List Step) (step : Step)
    (later : List Step) :
    (session.trace (earlier ++ step :: later))[earlier.length]? =
      some ((session.after earlier).perform step) := by
  induction earlier generalizing session with
  | nil => rfl
  | cons first earlier ih =>
      rw [List.cons_append, trace, List.length_cons, List.getElem?_cons_succ,
        ih, after_cons]

end Session

/-- In any sequence of steps on a comment, failed or not, every step moves the
cursor forward within the comment, returns the slice it has passed, keeps the
fragments written before, and fails only in the ways that are listed. -/
theorem steps_disciplined (comment : Text) (earlier : List Step) (step : Step)
    (later : List Step) :
    ∃ (outcome : Except StepFault Reply) (after : Session),
      ((Session.ofText comment).trace
          (earlier ++ step :: later))[earlier.length]? =
        some (outcome, after) ∧
      after = (Session.ofText comment).after (earlier ++ [step]) ∧
      Session.Disciplined comment ((Session.ofText comment).after earlier) step
        outcome after := by
  have disciplined :=
    ((Session.ofText comment).after earlier).disciplined_perform step
  rw [Session.text_after] at disciplined
  refine ⟨_, _, Session.getElem?_trace _ earlier step later, ?_, disciplined⟩
  rw [Session.after_append]
  rfl

end DocTag
