import DocTag.Program
import DocTag.Proofs.Delivery
import DocTag.Proofs.Usable
/-!
What the exit status of the program tells.

A command line that asks for an answer or cannot be used ends the program
before its surroundings matter.  Any other is read as options that can be
carried out, and then three things can go wrong: the file system refuses a
source or the document, a source is no text, or comments fail and failures
count.  The first gives status 2 and the others status 1; nothing else can go
wrong.
-/

namespace DocTag

/-- The file system refuses a job the first source that fails, or its
document. -/
def Job.Denied (job : Job) (surroundings : Surroundings) : Prop :=
  (∃ (before after : List (Except AccessFault Bytes)) (reason : AccessReason)
      (path : Path),
    job.sources surroundings =
        before ++ .error (.refused reason path) :: after ∧
      ∀ earlier ∈ before, ∃ comment : Text,
        commentOfSource earlier = .ok comment) ∨
    (∃ comments : List Text, job.Reads surroundings comments) ∧
      ¬ job.destination.Accepts surroundings.files

/-- A source is no text, and the file system refused none before it. -/
def Job.Garbled (job : Job) (surroundings : Surroundings) : Prop :=
  ∃ (before after : List (Except AccessFault Bytes)) (bytes : Bytes)
      (fault : Utf8.Fault),
    job.sources surroundings = before ++ .ok bytes :: after ∧
      (∀ earlier ∈ before, ∃ content : Bytes, earlier = .ok content) ∧
      Utf8.decode bytes = .error fault

def Job.FallsShort (job : Job) (style : ReferenceStyle)
    (surroundings : Surroundings) : Prop :=
  ∃ comments : List Text, job.Reads surroundings comments ∧
    job.destination.Accepts surroundings.files ∧ job.strict = true ∧
    ∃ comment ∈ comments, ∃ fault : AttributeFault,
      convert style comment = .error fault

structure Job.Reports (job : Job) (style : ReferenceStyle)
    (surroundings : Surroundings) (status : Nat) : Prop where
  refused : status = 2 ↔ ∃ (reason : AccessReason) (path : Path),
    (job.run surroundings).status = .error (.access (.refused reason path))
  two : status = 2 ↔ job.Denied surroundings
  one : status = 1 ↔
    job.Garbled surroundings ∨ job.FallsShort style surroundings
  zero : status = 0 ↔ ¬ job.Denied surroundings ∧
    ¬ job.Garbled surroundings ∧ ¬ job.FallsShort style surroundings
  /-- No fault but these two comes up; in particular each mode has a name. -/
  faults : ∀ fault : JobFault, (job.run surroundings).status = .error fault →
    (∃ (reason : AccessReason) (path : Path),
      fault = .access (.refused reason path)) ∨
      ∃ broken : Utf8.Fault, fault = .encoding broken

/-- The program ends before it looks at its surroundings. -/
structure Invocation.Leaves (invocation : Invocation) (status : Nat) :
    Prop where
  outcome : ∃ printed complained : Text, ∀ surroundings : Surroundings,
    invocation.run surroundings =
      ⟨.left status, printed, complained, surroundings.files⟩
  zero : status = 0 ↔ AsksFirst invocation.arguments
  two : status = 2 ↔ ¬ AsksFirst invocation.arguments

namespace Environment

def fallbackName (environment : Environment) : Text :=
  choose (FallbackMode.all.map FallbackMode.name) FallbackMode.drop.name
    environment.fallback?

def styleName (environment : Environment) : Text :=
  choose (ReferenceStyle.all.map ReferenceStyle.name) ReferenceStyle.code.name
    environment.style?

private theorem choose_mem {choices : List Text} {standard : Text}
    (member : standard ∈ choices) (value? : Option Text) :
    choose choices standard value? ∈ choices := by
  unfold choose
  simp only
  split
  · rename_i chosen
    exact List.contains_iff_mem.mp chosen
  · exact member

/-- Whatever the environment holds, it chooses modes that there are. -/
theorem ofNames_chosen (environment : Environment) :
    Settings.ofNames environment.fallbackName environment.styleName =
      .ok environment.settings := by
  have known : environment.fallbackName ∈
      FallbackMode.all.map FallbackMode.name :=
    choose_mem (by decide) environment.fallback?
  have known' : environment.styleName ∈
      ReferenceStyle.all.map ReferenceStyle.name :=
    choose_mem (by decide) environment.style?
  cases fallback : FallbackMode.ofName? environment.fallbackName with
  | none => exact absurd known (FallbackMode.ofName?_eq_none_iff.mp fallback)
  | some mode =>
      cases style : ReferenceStyle.ofName? environment.styleName with
      | none =>
          exact absurd known' (ReferenceStyle.ofName?_eq_none_iff.mp style)
      | some found =>
          have chosen : environment.settings = ⟨mode, found⟩ := by
            change (⟨(FallbackMode.ofName? environment.fallbackName).getD .drop,
              (ReferenceStyle.ofName? environment.styleName).getD .code⟩ :
                Settings) = _
            rw [fallback, style]
            rfl
          unfold Settings.ofNames FallbackMode.ofName ReferenceStyle.ofName
          rw [fallback, style, chosen]
          rfl

end Environment

/-! ### How a sound job ends -/

/-- A job that names no path with the character zero, has a destination, and
has modes that there are. -/
structure Job.Sound (job : Job) (settings : Settings) : Prop where
  inputs : ∀ path ∈ job.inputs, path.hasNul = false
  destination : job.destination.Usable
  named : Settings.ofNames job.fallbackName job.styleName = .ok settings

theorem Options.Usable.sound {options : Options} (usable : options.Usable) :
    ∃ fallback : FallbackMode, options.job.Sound ⟨fallback, options.style⟩ := by
  obtain ⟨fallback, -, named⟩ := usable.ofNames_job
  exact ⟨fallback, usable.inputs, usable.destination, named⟩

private theorem Destination.refused_of_place {destination : Destination}
    (usable : destination.Usable) {document : Text} {files : FileSystem}
    {fault : JobFault} (failed : destination.place document files =
      .error fault) :
    ∃ (reason : AccessReason) (path : Path),
      fault = .access (.refused reason path) := by
  rcases place_eq_error_iff.mp failed with
    ⟨rfl, -⟩ | ⟨path, refusal, rfl, refused, rfl⟩
  · exact usable.elim
  · rcases FileSystem.access_eq_error refused with
      ⟨nul, -⟩ | ⟨reason, -, rfl⟩
    · rw [usable] at nul
      cases nul
    · exact ⟨reason, path, rfl⟩

theorem mapM_commentOfSource_eq_encoding_iff
    {sources : List (Except AccessFault Bytes)} :
    (∃ fault : Utf8.Fault,
        sources.mapM commentOfSource = .error (.encoding fault)) ↔
      ∃ (before after : List (Except AccessFault Bytes)) (bytes : Bytes)
        (fault : Utf8.Fault),
        sources = before ++ .ok bytes :: after ∧
          (∀ earlier ∈ before, ∃ content : Bytes, earlier = .ok content) ∧
          Utf8.decode bytes = .error fault := by
  constructor
  · rintro ⟨fault, read⟩
    obtain ⟨before, after, source, split, earlier, failed⟩ :=
      mapM_commentOfSource_eq_error_iff.mp read
    rcases commentOfSource_eq_error_iff.mp failed with
      ⟨refusal, -, impossible⟩ | ⟨bytes, broken, rfl, decoded, -⟩
    · cases impossible
    · refine ⟨before, after, bytes, broken, split, ?_, decoded⟩
      intro other member
      obtain ⟨comment, found⟩ := earlier other member
      cases other with
      | error refusal => cases found
      | ok content => exact ⟨content, rfl⟩
  · rintro ⟨before, after, bytes, fault, rfl, earlier, decoded⟩
    induction before with
    | nil =>
        have failed : commentOfSource (.ok bytes) = .error (.encoding fault) :=
          commentOfSource_eq_error_iff.mpr
            (.inr ⟨bytes, fault, rfl, decoded, rfl⟩)
        rw [List.nil_append, List.mapM_cons, failed]
        exact ⟨fault, rfl⟩
    | cons first before ih =>
        obtain ⟨content, rfl⟩ := earlier first List.mem_cons_self
        obtain ⟨broken, behind⟩ :=
          ih fun other member => earlier other (List.mem_cons_of_mem _ member)
        rw [List.cons_append, List.mapM_cons, behind]
        cases read : commentOfSource (.ok content) with
        | ok comment => exact ⟨broken, rfl⟩
        | error met =>
            rcases commentOfSource_eq_error_iff.mp read with
              ⟨refusal, impossible, -⟩ | ⟨-, sooner, -, -, rfl⟩
            · cases impossible
            · exact ⟨sooner, rfl⟩

namespace Job

variable {job : Job} {surroundings : Surroundings} {settings : Settings}

private theorem Sound.refused_of_mem (sound : job.Sound settings)
    {refusal : AccessFault}
    (member : .error refusal ∈ job.sources surroundings) :
    ∃ (reason : AccessReason) (path : Path),
      refusal = .refused reason path := by
  have inputs := sound.inputs
  unfold sources at member
  cases named : job.inputs with
  | nil =>
      rw [named] at member
      cases List.mem_singleton.mp member
  | cons first rest =>
      rw [named] at member inputs
      obtain ⟨path, present, refused⟩ := List.mem_map.mp member
      rcases FileSystem.access_eq_error refused with
        ⟨nul, -⟩ | ⟨reason, -, rfl⟩
      · rw [inputs path present] at nul
        cases nul
      · exact ⟨reason, path, rfl⟩

/-- There are three ways to go on from the sources of a sound job. -/
private theorem Sound.denied_or_garbled_or_accepts (sound : job.Sound settings)
    (surroundings : Surroundings) :
    job.Denied surroundings ∨ job.Garbled surroundings ∨
      ∃ comments : List Text, job.Reads surroundings comments ∧
        job.destination.Accepts surroundings.files := by
  cases read : (job.sources surroundings).mapM commentOfSource with
  | error fault =>
      obtain ⟨before, after, source, split, earlier, failed⟩ :=
        mapM_commentOfSource_eq_error_iff.mp read
      rcases commentOfSource_eq_error_iff.mp failed with
        ⟨refusal, rfl, rfl⟩ | ⟨bytes, broken, rfl, decoded, rfl⟩
      · have member : .error refusal ∈ job.sources surroundings := by
          rw [split]
          simp
        obtain ⟨reason, path, rfl⟩ := sound.refused_of_mem member
        exact .inl (.inl ⟨before, after, reason, path, split, earlier⟩)
      · exact .inr (.inl
          (mapM_commentOfSource_eq_encoding_iff.mp ⟨broken, read⟩))
  | ok comments =>
      rw [mapM_commentOfSource_eq_ok_iff] at read
      by_cases accepts : job.destination.Accepts surroundings.files
      · exact .inr (.inr ⟨comments, read, accepts⟩)
      · exact .inl (.inr ⟨⟨comments, read⟩, accepts⟩)

private theorem Sound.status_of_denied (sound : job.Sound settings)
    (denied : job.Denied surroundings) :
    ∃ (reason : AccessReason) (path : Path),
      (job.run surroundings).status =
        .error (.access (.refused reason path)) := by
  rcases denied with
    ⟨before, after, reason, path, split, earlier⟩ | ⟨⟨comments, read⟩, refuses⟩
  · have failed := mapM_commentOfSource_eq_error_iff.mpr
      ⟨before, after, _, split, earlier, rfl⟩
    rw [run_of_unread failed]
    exact ⟨reason, path, rfl⟩
  · rw [run_of_named read sound.named, deliver_ofComments]
    cases placed : job.destination.place (documentOf settings comments)
        surroundings.files with
    | error fault =>
        obtain ⟨reason, path, rfl⟩ :=
          Destination.refused_of_place sound.destination placed
        exact ⟨reason, path, rfl⟩
    | ok received =>
        have accepts := (Destination.accepts_iff _).mpr ⟨_, _, placed⟩
        exact absurd accepts refuses

private theorem status_of_garbled (garbled : job.Garbled surroundings) :
    ∃ fault : Utf8.Fault,
      (job.run surroundings).status = .error (.encoding fault) := by
  obtain ⟨fault, failed⟩ := mapM_commentOfSource_eq_encoding_iff.mpr garbled
  rw [run_of_unread failed]
  exact ⟨fault, rfl⟩

private theorem exitStatus_of_denied (sound : job.Sound settings)
    (denied : job.Denied surroundings) :
    (job.run surroundings).exitStatus = 2 := by
  obtain ⟨reason, path, status⟩ := sound.status_of_denied denied
  unfold JobOutcome.exitStatus
  rw [status]
  rfl

private theorem exitStatus_of_garbled (garbled : job.Garbled surroundings) :
    (job.run surroundings).exitStatus = 1 := by
  obtain ⟨fault, status⟩ := status_of_garbled garbled
  unfold JobOutcome.exitStatus
  rw [status]
  rfl

private theorem exitStatus_of_accepts (sound : job.Sound settings)
    {comments : List Text} (read : job.Reads surroundings comments)
    (accepts : job.destination.Accepts surroundings.files) :
    (job.run surroundings).exitStatus =
      statusOf job.strict settings.style comments := by
  obtain ⟨-, status, -⟩ := received_of_accepts read sound.named accepts
  unfold JobOutcome.exitStatus
  rw [status]

private theorem exitStatus_of_fallsShort (sound : job.Sound settings)
    (short : job.FallsShort settings.style surroundings) :
    (job.run surroundings).exitStatus = 1 := by
  obtain ⟨comments, read, accepts, strict, failing⟩ := short
  rw [exitStatus_of_accepts sound read accepts]
  exact if_pos ⟨strict, faulty_ne_nil_iff.mpr failing⟩

private theorem exitStatus_of_none (sound : job.Sound settings)
    (undenied : ¬ job.Denied surroundings)
    (ungarbled : ¬ job.Garbled surroundings)
    (sufficient : ¬ job.FallsShort settings.style surroundings) :
    (job.run surroundings).exitStatus = 0 := by
  rcases sound.denied_or_garbled_or_accepts surroundings with
    denied | garbled | ⟨comments, read, accepts⟩
  · exact absurd denied undenied
  · exact absurd garbled ungarbled
  · rw [exitStatus_of_accepts sound read accepts]
    apply if_neg
    intro ⟨strict, nonempty⟩
    exact sufficient
      ⟨comments, read, accepts, strict, faulty_ne_nil_iff.mp nonempty⟩

theorem Sound.faults (sound : job.Sound settings) {fault : JobFault}
    (failed : (job.run surroundings).status = .error fault) :
    (∃ (reason : AccessReason) (path : Path),
        fault = .access (.refused reason path)) ∨
      ∃ broken : Utf8.Fault, fault = .encoding broken := by
  rcases sound.denied_or_garbled_or_accepts surroundings with
    denied | garbled | ⟨comments, read, accepts⟩
  · obtain ⟨reason, path, status⟩ := sound.status_of_denied denied
    rw [failed] at status
    exact .inl ⟨reason, path, Except.error.inj status⟩
  · obtain ⟨broken, status⟩ := status_of_garbled garbled
    rw [failed] at status
    exact .inr ⟨broken, Except.error.inj status⟩
  · obtain ⟨-, status, -⟩ := received_of_accepts read sound.named accepts
    rw [failed] at status
    cases status

theorem Sound.reports (sound : job.Sound settings)
    (surroundings : Surroundings) :
    job.Reports settings.style surroundings
      (job.run surroundings).exitStatus := by
  have denied (is : job.Denied surroundings) :=
    exitStatus_of_denied sound is
  have garbled (is : job.Garbled surroundings) :=
    exitStatus_of_garbled is
  have short (is : job.FallsShort settings.style surroundings) :=
    exitStatus_of_fallsShort sound is
  -- The three statuses differ, so each leads back to what it comes from.
  have two : (job.run surroundings).exitStatus = 2 →
      job.Denied surroundings := by
    intro status
    rcases sound.denied_or_garbled_or_accepts surroundings with
      is | is | ⟨comments, read, accepts⟩
    · exact is
    · have other := garbled is
      omega
    · have other := exitStatus_of_accepts sound read accepts
      have small : statusOf job.strict settings.style comments ≤ 1 := by
        unfold statusOf
        split <;> omega
      omega
  have one : (job.run surroundings).exitStatus = 1 →
      job.Garbled surroundings ∨
        job.FallsShort settings.style surroundings := by
    intro status
    apply Classical.byContradiction
    intro neither
    obtain ⟨ungarbled, sufficient⟩ := not_or.mp neither
    have undenied : ¬ job.Denied surroundings := by
      intro is
      have other := denied is
      omega
    have other := exitStatus_of_none sound undenied ungarbled sufficient
    omega
  refine ⟨?_, ⟨two, denied⟩, ⟨one, fun either => either.elim garbled short⟩,
    ?_, fun fault failed => sound.faults failed⟩
  · constructor
    · exact fun status => sound.status_of_denied (two status)
    · rintro ⟨reason, path, status⟩
      unfold JobOutcome.exitStatus
      rw [status]
      rfl
  · constructor
    · intro status
      refine ⟨?_, ?_, ?_⟩
      · intro is
        have other := denied is
        omega
      · intro is
        have other := garbled is
        omega
      · intro is
        have other := short is
        omega
    · exact fun ⟨undenied, ungarbled, sufficient⟩ =>
        exitStatus_of_none sound undenied ungarbled sufficient

end Job

/-! ### How the program ends -/

namespace Stop

private theorem status_eq_zero_iff {stop : Stop} :
    stop.status = 0 ↔ stop = .help ∨ stop = .version := by
  cases stop <;> simp [status]

private theorem status_eq_two_iff {stop : Stop} :
    stop.status = 2 ↔ ¬ (stop = .help ∨ stop = .version) := by
  cases stop <;> simp [status]

end Stop

/-- Only the settings of an environment have a part in how a command line is
read. -/
theorem Options.parse_congr {environment other : Environment}
    (fallback : other.fallback? = environment.fallback?)
    (style : other.style? = environment.style?) (arguments : List Text) :
    parse other arguments = parse environment arguments := by
  have settings : other.settings = environment.settings := by
    unfold Environment.settings
    rw [fallback, style]
  unfold parse
  rw [settings]

namespace Invocation

variable {invocation : Invocation}

private theorem leaves_of_stop {stop : Stop}
    (stopped : invocation.options = .error stop) :
    invocation.Leaves stop.status := by
  have answers : (∃ other : Stop, invocation.options = .error other ∧
      (other = .help ∨ other = .version)) ↔
        AsksFirst invocation.arguments :=
    Options.parse_answers_iff
  simp only [stopped, Except.error.injEq, exists_eq_left'] at answers
  refine ⟨⟨stop.standardOutput invocation.programName,
    stop.standardError invocation.programName, ?_⟩, ?_, ?_⟩
  · intro surroundings
    unfold run
    rw [stopped]
  · rw [Stop.status_eq_zero_iff, answers]
  · rw [Stop.status_eq_two_iff, answers]

private theorem ending_of_options {options : Options}
    (parsed : invocation.options = .ok options) (surroundings : Surroundings) :
    (invocation.run surroundings).ending =
      .returned (options.job.run surroundings).exitStatus := by
  unfold run
  rw [parsed]

private theorem ending_of_stop {stop : Stop}
    (stopped : invocation.options = .error stop)
    (surroundings : Surroundings) :
    (invocation.run surroundings).ending = .left stop.status := by
  unfold run
  rw [stopped]

theorem ending_congr {other : Invocation}
    (same : other.options = invocation.options) (surroundings : Surroundings) :
    (other.run surroundings).ending = (invocation.run surroundings).ending := by
  cases read : invocation.options with
  | error stop =>
      rw [read] at same
      rw [ending_of_stop read, ending_of_stop same]
  | ok options =>
      rw [read] at same
      rw [ending_of_options read, ending_of_options same]

/-- The exit status tells how the program ended: it left for its command line,
or the file system refused it something, or a source was no text, or comments
failed where that counts.  It never fails for a mode that there is not, whatever
the environment holds, and its ending does not hang on the name it goes by. -/
theorem exit_status_tells_ending (invocation : Invocation)
    (clean : ∀ argument ∈ invocation.arguments, '\x00' ∉ argument)
    (valued : ¬ AttachesSeparator invocation.arguments) :
    ((∃ status : Nat, invocation.Leaves status) ∨
        ∃ options : Options, invocation.options = .ok options ∧
          ∀ surroundings : Surroundings, ∃ status : Nat,
            (invocation.run surroundings).ending = .returned status ∧
              options.job.Reports options.style surroundings status) ∧
      Settings.ofNames invocation.environment.fallbackName
          invocation.environment.styleName =
        .ok invocation.environment.settings ∧
      ∀ other : Invocation, other.arguments = invocation.arguments →
        other.environment.fallback? = invocation.environment.fallback? →
          other.environment.style? = invocation.environment.style? →
            ∀ surroundings : Surroundings,
              (other.run surroundings).ending =
                (invocation.run surroundings).ending := by
  refine ⟨?_, invocation.environment.ofNames_chosen, ?_⟩
  · cases read : invocation.options with
    | error stop => exact .inl ⟨stop.status, leaves_of_stop read⟩
    | ok options =>
        obtain ⟨fallback, sound⟩ :=
          (Options.usable_of_parse clean valued read).sound
        refine .inr ⟨options, rfl, ?_⟩
        intro surroundings
        exact ⟨_, ending_of_options read surroundings,
          sound.reports surroundings⟩
  · intro other arguments fallback style surroundings
    apply ending_congr
    unfold options
    rw [arguments]
    exact Options.parse_congr fallback style _

/-- The list of the comment has no end, and failures count. -/
theorem exit_status_tells_ending_strict :
    let invocation : Invocation :=
      ⟨["--strict".toList, "note".toList], none, "doxmd".toList,
        { fallback? := some " Keep\n".toList }⟩
    let files : FileSystem :=
      ⟨[(["note".toList], .file (Utf8.encode "@param[in x".toList))], []⟩
    (∀ argument ∈ invocation.arguments, '\x00' ∉ argument) ∧
      ¬ AttachesSeparator invocation.arguments ∧
      (invocation.run ⟨files, []⟩).ending = .returned 1 := by
  intro invocation files
  have clean : ∀ argument ∈ invocation.arguments, '\x00' ∉ argument := by
    decide +kernel
  have valued : ¬ AttachesSeparator invocation.arguments := by
    rintro ⟨tokens, token, cluster, read, member, spelled, dashes⟩
    have known : Token.ofTexts invocation.arguments =
        .ok [.long .strict none, .operand "note".toList] := by
      decide +kernel
    rw [known] at read
    cases read
    rcases List.mem_cons.mp member with rfl | later
    · cases spelled
      cases dashes
    · obtain rfl := List.mem_singleton.mp later
      cases spelled
  refine ⟨clean, valued, ?_⟩
  have parsed : invocation.options =
      .ok ⟨[⟨.working, ["note".toList]⟩], .standardOutput, some .keep, .code,
        true⟩ := by
    decide +kernel
  obtain ⟨leaves | ⟨options, parsed', reports⟩, -, -⟩ :=
    exit_status_tells_ending invocation clean valued
  · obtain ⟨status, ⟨printed, complained, outcome⟩, -, -⟩ := leaves
    have left := congrArg Outcome.ending (outcome ⟨files, []⟩)
    rw [ending_of_options parsed] at left
    cases left
  · rw [parsed] at parsed'
    cases parsed'
    obtain ⟨status, ended, tells⟩ := reports ⟨files, []⟩
    rw [ended, tells.one.mpr]
    refine .inr ⟨["@param[in x".toList], ?_, trivial, rfl, ?_⟩
    · refine .cons ?_ .nil
      decide +kernel
    · exact faulty_ne_nil_iff.mp (by decide +kernel)

end Invocation
end DocTag
