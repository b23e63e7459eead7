import DocTag.CommandLine.Options
/-!
What happens along a command line.

A command line is read as a row of events: an option acts with its value, or
something turns out to be wrong.  What the options have set so far has no part
in which events there are, and the first event that ends the reading decides
how it ends.  So the program answers with help or its version exactly when one
of them is asked for before anything is wrong.
-/

namespace DocTag

inductive Event where
  | acts (switch : Switch) (value : Text)
  | misuse (fault : UsageFault)
deriving DecidableEq, Repr

namespace Event

def stop? : Event → Option Stop
  | .acts .help _ => some .help
  | .acts .version _ => some .version
  | .acts _ _ => none
  | .misuse fault => some (.misuse fault)

def Asks (event : Event) : Prop :=
  ∃ value : Text, event = .acts .help value ∨ event = .acts .version value

def IsMisuse (event : Event) : Prop :=
  ∃ fault : UsageFault, event = .misuse fault

def ofSwitch (switch : Switch) (value : Text) : Event :=
  if switch = .fallback ∧ value ≠ Token.separatorText ∧
      FallbackMode.ofName? value = none then
    .misuse (.valueUnknown .fallback value
      (FallbackMode.all.map FallbackMode.name))
  else .acts switch value

def ofCluster (cluster : Cluster) (operand : Text) : List Event :=
  (cluster.before.map fun switch => ofSwitch switch []) ++
    [ofSwitch cluster.last (cluster.value?.getD operand)]

def ofTokens : List Token → List Event
  | [] => []
  | token :: tokens =>
      match Cluster.ofToken? token with
      | none => ofTokens tokens
      | some (.error fault) => [.misuse fault]
      | some (.ok cluster) =>
          match cluster.needs? with
          | none => ofCluster cluster [] ++ ofTokens tokens
          | some switch =>
              match tokens with
              | .operand value :: rest => ofCluster cluster value ++ ofTokens rest
              | _ => [.misuse (.valueMissing switch)]

/-- The first of the events that ends the reading says how it went. -/
def Decide {result : Type} (events : List Event)
    (reading : Except Stop result) : Prop :=
  match events.findSome? stop? with
  | some stop => reading = .error stop
  | none => ∃ value : result, reading = .ok value

end Event

/-- Help or the version is asked for on the command line, and nothing is wrong
before that. -/
def AsksFirst (arguments : List Text) : Prop :=
  ∃ (tokens : List Token) (earlier later : List Event) (event : Event),
    Token.ofTexts arguments = .ok tokens ∧
      Event.ofTokens tokens = earlier ++ event :: later ∧
      event.Asks ∧ ∀ other ∈ earlier, ¬ other.IsMisuse

namespace Event

private theorem stop?_eq_none_iff {event : Event} :
    event.stop? = none ↔ ¬ event.Asks ∧ ¬ event.IsMisuse := by
  cases event with
  | misuse fault => simp [stop?, IsMisuse]
  | acts switch value => cases switch <;> simp [stop?, Asks, IsMisuse]

private theorem asks_iff {event : Event} :
    event.Asks ↔ ∃ stop : Stop, event.stop? = some stop ∧
      (stop = .help ∨ stop = .version) := by
  cases event with
  | misuse fault => simp [stop?, Asks]
  | acts switch value => cases switch <;> simp [stop?, Asks]

private theorem findSome?_asks_iff {events : List Event} :
    (∃ stop : Stop, events.findSome? stop? = some stop ∧
        (stop = .help ∨ stop = .version)) ↔
      ∃ (earlier later : List Event) (event : Event),
        events = earlier ++ event :: later ∧ event.Asks ∧
          ∀ other ∈ earlier, ¬ other.IsMisuse := by
  -- Either the first event is silent, and so belongs to those before the
  -- deciding one, or it decides.
  induction events with
  | nil => simp
  | cons first events ih =>
      rw [List.findSome?_cons]
      cases stopped : first.stop? with
      | none =>
          obtain ⟨silent, sound⟩ := stop?_eq_none_iff.mp stopped
          simp only
          rw [ih]
          constructor
          · rintro ⟨earlier, later, event, rfl, asks, before⟩
            refine ⟨first :: earlier, later, event, rfl, asks, ?_⟩
            intro other member
            rcases List.mem_cons.mp member with rfl | behind
            · exact sound
            · exact before other behind
          · rintro ⟨earlier, later, event, split, asks, before⟩
            cases earlier with
            | nil =>
                cases split
                exact absurd asks silent
            | cons other earlier =>
                cases split
                refine ⟨earlier, later, event, rfl, asks, ?_⟩
                intro prior member
                exact before prior (List.mem_cons_of_mem _ member)
      | some stop =>
          simp only [Option.some_inj, exists_eq_left']
          constructor
          · intro answer
            refine ⟨[], events, first, rfl, ?_, ?_⟩
            · exact asks_iff.mpr ⟨stop, stopped, answer⟩
            · intro other member
              cases member
          · rintro ⟨earlier, later, event, split, asks, before⟩
            have asked : first.Asks := by
              cases earlier with
              | nil =>
                  cases split
                  exact asks
              | cons other earlier =>
                  cases split
                  have sound := before first List.mem_cons_self
                  have ends : ¬ (¬ first.Asks ∧ ¬ first.IsMisuse) := by
                    rw [← stop?_eq_none_iff, stopped]
                    exact Option.some_ne_none stop
                  exact Classical.byContradiction fun silent =>
                    ends ⟨silent, sound⟩
            obtain ⟨stop', stopped', answer⟩ := asks_iff.mp asked
            rw [stopped] at stopped'
            cases stopped'
            exact answer

/-! ### Events decide -/

private theorem decide_nil {result : Type} (value : result) :
    Decide [] (.ok value) :=
  ⟨value, rfl⟩

theorem Decide.bind {first second : Type} {events behind : List Event}
    {reading : Except Stop first} {next : first → Except Stop second}
    (here : Decide events reading)
    (there : ∀ value : first, reading = .ok value →
      Decide behind (next value)) :
    Decide (events ++ behind) (reading >>= next) := by
  unfold Decide at here
  cases stopped : events.findSome? stop? with
  | some stop =>
      simp only [stopped] at here
      subst here
      unfold Decide
      rw [List.findSome?_append, stopped]
      rfl
  | none =>
      simp only [stopped] at here
      obtain ⟨value, read⟩ := here
      have rest := there value read
      subst read
      unfold Decide at rest ⊢
      rw [List.findSome?_append, stopped]
      exact rest

theorem decide_perform (progress : Progress) (switch : Switch)
    (value : Text) :
    Decide [ofSwitch switch value] (progress.perform switch value) := by
  cases switch with
  | help | version => rfl
  | output | intraDocLinks | strict => exact ⟨_, rfl⟩
  | fallback =>
      by_cases dashes : value = Token.separatorText
      · subst dashes
        exact ⟨_, rfl⟩
      · cases found : FallbackMode.ofName? value with
        | none =>
            have wrong : ofSwitch .fallback value =
                .misuse (.valueUnknown .fallback value
                  (FallbackMode.all.map FallbackMode.name)) :=
              if_pos ⟨rfl, dashes, found⟩
            simp only [wrong, Progress.perform, if_neg dashes, found]
            exact rfl
        | some mode =>
            have acts : ofSwitch .fallback value = .acts .fallback value := by
              simp [ofSwitch, found]
            simp only [acts, Progress.perform, if_neg dashes, found]
            exact ⟨_, rfl⟩

private theorem decide_ofCluster (progress : Progress) (cluster : Cluster)
    (operand : Text) :
    Decide (ofCluster cluster operand) (cluster.perform operand progress) := by
  have flags (before : List Switch) (progress : Progress) :
      Decide (before.map fun switch => ofSwitch switch [])
        (before.foldlM (fun progress switch => progress.perform switch [])
          progress) := by
    induction before generalizing progress with
    | nil => exact decide_nil progress
    | cons switch before ih =>
        rw [List.map_cons, List.foldlM_cons]
        exact (decide_perform progress switch []).bind fun next _ => ih next
  exact (flags cluster.before progress).bind fun next _ =>
    decide_perform next cluster.last _

/-- Reading tokens goes as their events say, whatever was read before. -/
theorem decide_consume (tokens : List Token) (progress : Progress) :
    Decide (ofTokens tokens) (progress.consume tokens) := by
  fun_induction Progress.consume progress tokens with
  | case1 progress => exact decide_nil progress
  | case2 progress token tokens other ih =>
      rw [ofTokens, other]
      exact ih
  | case3 progress token tokens fault refused =>
      rw [ofTokens, refused]
      exact rfl
  | case4 progress token tokens cluster read complete ih =>
      rw [ofTokens, read]
      simp only [complete]
      exact (decide_ofCluster progress.close cluster []).bind fun after _ => ih after
  | case5 progress token cluster read switch needed value rest ih =>
      rw [ofTokens, read]
      simp only [needed]
      exact (decide_ofCluster progress.close cluster value).bind fun after _ => ih after
  | case6 progress token tokens cluster read switch needed missing =>
      rw [ofTokens, read]
      simp only [needed]
      match tokens, missing with
      | [], _ => exact rfl
      | .operand value :: rest, missing => exact (missing value rest rfl).elim
      | .separator :: _, _ | .unknown _ :: _, _ => exact rfl
      | .short _ _ :: _, _ | .long _ _ :: _, _ => exact rfl

end Event

namespace Progress

private theorem finish_eq_error {progress : Progress} {stop : Stop}
    (stopped : progress.finish = .error stop) :
    ∃ fault : UsageFault, stop = .misuse fault := by
  unfold finish at stopped
  cases aside : progress.setAside with
  | nil =>
      rw [aside] at stopped
      cases stopped
  | cons argument arguments =>
      rw [aside] at stopped
      cases stopped
      exact ⟨_, rfl⟩

end Progress

namespace Options

variable {environment : Environment} {arguments : List Text}

theorem parse_of_ambiguous {fault : UsageFault}
    (read : Token.ofTexts arguments = .error fault) :
    parse environment arguments = .error (.misuse fault) := by
  unfold parse
  rw [read]
  rfl

theorem parse_of_tokens {tokens : List Token}
    (read : Token.ofTexts arguments = .ok tokens) :
    parse environment arguments =
      Progress.consume
          { fallback? := some environment.settings.fallback,
            style := environment.settings.style } tokens >>=
        Progress.finish := by
  unfold parse
  rw [read]
  rfl

/-- What the options have been set to has no part in whether the reading ends
with an answer. -/
theorem parse_answers_iff :
    (∃ stop : Stop, parse environment arguments = .error stop ∧
        (stop = .help ∨ stop = .version)) ↔
      AsksFirst arguments := by
  cases read : Token.ofTexts arguments with
  | error fault =>
      rw [parse_of_ambiguous read]
      constructor
      · rintro ⟨stop, stopped, answer⟩
        cases stopped
        rcases answer with impossible | impossible <;> cases impossible
      · rintro ⟨tokens, -, -, -, read', -⟩
        rw [read] at read'
        cases read'
  | ok tokens =>
      have asks : AsksFirst arguments ↔
          ∃ stop : Stop, (Event.ofTokens tokens).findSome? Event.stop? =
            some stop ∧ (stop = .help ∨ stop = .version) := by
        rw [Event.findSome?_asks_iff]
        unfold AsksFirst
        simp only [read, Except.ok.injEq, exists_and_left, exists_eq_left']
      have decided := Event.decide_consume tokens
        { fallback? := some environment.settings.fallback,
          style := environment.settings.style }
      unfold Event.Decide at decided
      rw [asks, parse_of_tokens read]
      cases first : (Event.ofTokens tokens).findSome? Event.stop? with
      | some stop =>
          rw [first] at decided
          rw [decided]
          change (∃ other : Stop, Except.error stop = .error other ∧ _) ↔ _
          simp only [Except.error.injEq, Option.some_inj]
      | none =>
          rw [first] at decided
          obtain ⟨progress, consumed⟩ := decided
          rw [consumed]
          constructor
          · rintro ⟨stop, stopped, answer⟩
            obtain ⟨fault, rfl⟩ := Progress.finish_eq_error stopped
            rcases answer with impossible | impossible <;> cases impossible
          · rintro ⟨stop, impossible, -⟩
            cases impossible

end Options
end DocTag
