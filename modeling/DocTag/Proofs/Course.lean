import DocTag.Proofs.Delivery
/-!
Jobs under way, one effect at a time.

A job reads its sources one after the other, takes the comments one after the
other, places its document, and counts its failures.  Each of these is a step,
on the files, the output and the tally as they stand then, and a step that
fails ends the job.  The course of a job comes to one end, which is the outcome
of the job.  Placing the document is the only step that touches a file or
prints on standard output, and behind it no step fails: so a job that fails has
done neither at any time.
-/

namespace DocTag

inductive Source where
  | standardInput
  | file (path : Path)
deriving DecidableEq, Repr

def Source.bytes (source : Source) (surroundings : Surroundings) :
    Except AccessFault Bytes :=
  match source with
  | .standardInput => .ok surroundings.standardInput
  | .file path => surroundings.files.read path

inductive Stage where
  | reading (read : List Text) (left : List Source)
  | taking (left : List Text)
  | placing
  | counting
  | ended (status : Except JobFault Nat)

namespace Tally

def document (tally : Tally) : Text :=
  Report.closeLine (Text.join ['\n'] (tally.results.filterMap id))

def counted (tally : Tally) : Tally :=
  if tally.failures = 0 then tally
  else
    { tally with
      warned := tally.warned ++ (Text.decimal tally.failures ++ "/".toList ++
        Text.decimal tally.results.length ++
          " comments could not be converted\n".toList) }

def status (tally : Tally) (strict : Bool) : Nat :=
  if strict && tally.failures ≠ 0 then 1 else 0

end Tally

structure Work where
  files : FileSystem
  printed : Text := []
  tally : Tally := {}

namespace Job

structure State where
  stage : Stage
  work : Work

def reads (job : Job) : List Source :=
  match job.inputs with
  | [] => [.standardInput]
  | inputs => inputs.map .file

def begun (job : Job) (surroundings : Surroundings) : State :=
  ⟨.reading [] job.reads, { files := surroundings.files }⟩

/-- The steps of a job with its standard input. -/
inductive Moves (job : Job) (input : Bytes) : State → State → Prop
  | read {read : List Text} {source : Source} {left : List Source}
      {work : Work} {comment : Text}
      (found : commentOfSource (source.bytes ⟨work.files, input⟩) =
        .ok comment) :
      Moves job input ⟨.reading read (source :: left), work⟩
        ⟨.reading (read ++ [comment]) left, work⟩
  | unread {read : List Text} {source : Source} {left : List Source}
      {work : Work} {fault : JobFault}
      (failed : commentOfSource (source.bytes ⟨work.files, input⟩) =
        .error fault) :
      Moves job input ⟨.reading read (source :: left), work⟩
        ⟨.ended (.error fault), work⟩
  | allRead {read : List Text} {work : Work} :
      Moves job input ⟨.reading read [], work⟩ ⟨.taking read, work⟩
  | took {comment : Text} {left : List Text} {work : Work} {tally : Tally}
      (taken : work.tally.take job.fallbackName job.styleName comment =
        (.ok (), tally)) :
      Moves job input ⟨.taking (comment :: left), work⟩
        ⟨.taking left, { work with tally }⟩
  | unnamed {comment : Text} {left : List Text} {work : Work} {tally : Tally}
      {fault : SettingFault}
      (stopped : work.tally.take job.fallbackName job.styleName comment =
        (.error fault, tally)) :
      Moves job input ⟨.taking (comment :: left), work⟩
        ⟨.ended (.error (.setting fault)), { work with tally }⟩
  | allTaken {work : Work} :
      Moves job input ⟨.taking [], work⟩ ⟨.placing, work⟩
  | placed {work : Work} {files : FileSystem} {added : Text}
      (received : job.destination.place work.tally.document work.files =
        .ok (added, files)) :
      Moves job input ⟨.placing, work⟩
        ⟨.counting, { work with files, printed := work.printed ++ added }⟩
  | refused {work : Work} {fault : JobFault}
      (failed : job.destination.place work.tally.document work.files =
        .error fault) :
      Moves job input ⟨.placing, work⟩ ⟨.ended (.error fault), work⟩
  | counted {work : Work} :
      Moves job input ⟨.counting, work⟩
        ⟨.ended (.ok (work.tally.status job.strict)),
          { work with tally := work.tally.counted }⟩

inductive Course (job : Job) (surroundings : Surroundings) : State → Prop
  | begun : Course job surroundings (job.begun surroundings)
  | step {state next : State} (course : Course job surroundings state)
      (moves : job.Moves surroundings.standardInput state next) :
      Course job surroundings next

end Job

/-- What is certain of a job, whatever it meets. -/
structure Job.Orderly (job : Job) (surroundings : Surroundings) : Prop where
  ends : ∃ (status : Except JobFault Nat) (work : Work),
    job.Course surroundings ⟨.ended status, work⟩
  /-- At any end of its course the work is what the outcome says. -/
  agrees : ∀ (status : Except JobFault Nat) (work : Work),
    job.Course surroundings ⟨.ended status, work⟩ →
      job.run surroundings =
        ⟨status, work.printed, work.tally.warned, work.files⟩
  failed : ∀ fault : JobFault, (job.run surroundings).status = .error fault →
    (job.run surroundings).files = surroundings.files ∧
      (job.run surroundings).standardOutput = [] ∧
      ∀ state : Job.State, job.Course surroundings state →
        state.work.files = surroundings.files ∧ state.work.printed = []
  /-- The first source that cannot be read decides how the job fails. -/
  unread : (∃ source ∈ job.sources surroundings, ∃ fault : JobFault,
      commentOfSource source = .error fault) →
    ∃ (before after : List (Except AccessFault Bytes))
      (source : Except AccessFault Bytes) (fault : JobFault),
      job.sources surroundings = before ++ source :: after ∧
        (∀ earlier ∈ before, ∃ comment : Text,
          commentOfSource earlier = .ok comment) ∧
        commentOfSource source = .error fault ∧
        (job.run surroundings).status = .error fault ∧
        (job.run surroundings).standardError = []
  unnamed : ∀ fault : SettingFault,
    (job.run surroundings).status = .error (.setting fault) ↔
      (∃ comments : List Text, job.Reads surroundings comments) ∧
        Settings.ofNames job.fallbackName job.styleName = .error fault
  /-- A job whose document is refused has warned of its comments, and has not
  told their number. -/
  refused : ∀ (comments : List Text) (settings : Settings),
    job.Reads surroundings comments →
      Settings.ofNames job.fallbackName job.styleName = .ok settings →
        ¬ job.destination.Accepts surroundings.files →
          (∃ fault : JobFault,
            (job.run surroundings).status = .error fault) ∧
            (job.run surroundings).standardError =
              warningsOn settings.style comments
  /-- The document hangs on the modes and on what the sources held before, and
  not on where it goes. -/
  returned : ∀ status : Nat, (job.run surroundings).status = .ok status →
    ∃ document : Text,
      job.destination.Received document surroundings.files
          (job.run surroundings).standardOutput
          (job.run surroundings).files ∧
        ∀ (other : Job) (elsewhere : Surroundings) (status' : Nat),
          other.sources elsewhere = job.sources surroundings →
            other.fallbackName = job.fallbackName →
              other.styleName = job.styleName →
                (other.run elsewhere).status = .ok status' →
                  other.destination.Received document elsewhere.files
                    (other.run elsewhere).standardOutput
                    (other.run elsewhere).files

namespace Work

def closed (work : Work) (status : Except JobFault Nat) : JobOutcome :=
  ⟨status, work.printed, work.tally.warned, work.files⟩

def outcomeOfCounting (job : Job) (work : Work) : JobOutcome :=
  { work with tally := work.tally.counted }.closed
    (.ok (work.tally.status job.strict))

def outcomeOfPlacing (job : Job) (work : Work) : JobOutcome :=
  match job.destination.place work.tally.document work.files with
  | .ok (added, files) =>
      { work with files, printed := work.printed ++ added }.outcomeOfCounting
        job
  | .error fault => work.closed (.error fault)

def outcomeOfTaking (job : Job) (work : Work) (left : List Text) :
    JobOutcome :=
  match work.tally.takeAll job.fallbackName job.styleName left with
  | (.ok (), tally) => { work with tally }.outcomeOfPlacing job
  | (.error fault, tally) =>
      { work with tally }.closed (.error (.setting fault))

def outcomeOfReading (job : Job) (input : Bytes) (work : Work)
    (read : List Text) (left : List Source) : JobOutcome :=
  match (left.map fun source => source.bytes ⟨work.files, input⟩).mapM
      commentOfSource with
  | .ok comments => work.outcomeOfTaking job (read ++ comments)
  | .error fault => work.closed (.error fault)

private theorem outcomeOfReading_nil (job : Job) (input : Bytes) (work : Work)
    (read : List Text) :
    work.outcomeOfReading job input read [] =
      work.outcomeOfTaking job read := by
  have none : ([] : List (Except AccessFault Bytes)).mapM commentOfSource =
      .ok [] :=
    rfl
  unfold outcomeOfReading
  rw [List.map_nil, none]
  simp only [List.append_nil]

private theorem outcomeOfReading_of_ok {job : Job} {input : Bytes} {work : Work}
    {source : Source} {comment : Text}
    (found : commentOfSource (source.bytes ⟨work.files, input⟩) = .ok comment)
    (read : List Text) (left : List Source) :
    work.outcomeOfReading job input read (source :: left) =
      work.outcomeOfReading job input (read ++ [comment]) left := by
  unfold outcomeOfReading
  rw [List.map_cons, List.mapM_cons, found]
  cases (left.map fun source => source.bytes ⟨work.files, input⟩).mapM
      commentOfSource with
  | error fault => rfl
  | ok comments =>
      simp only [bind, Except.bind, pure, Except.pure, List.append_assoc,
        List.singleton_append]

private theorem outcomeOfReading_of_error {job : Job} {input : Bytes}
    {work : Work} {source : Source} {fault : JobFault}
    (failed : commentOfSource (source.bytes ⟨work.files, input⟩) =
      .error fault)
    (read : List Text) (left : List Source) :
    work.outcomeOfReading job input read (source :: left) =
      work.closed (.error fault) := by
  unfold outcomeOfReading
  rw [List.map_cons, List.mapM_cons, failed]
  rfl

end Work

namespace Job

def State.outcome (job : Job) (input : Bytes) (state : State) : JobOutcome :=
  match state.stage with
  | .reading read left => state.work.outcomeOfReading job input read left
  | .taking left => state.work.outcomeOfTaking job left
  | .placing => state.work.outcomeOfPlacing job
  | .counting => state.work.outcomeOfCounting job
  | .ended status => state.work.closed status

def State.weight (state : State) : Nat :=
  match state.stage with
  | .reading read left => 2 * left.length + read.length + 4
  | .taking left => left.length + 3
  | .placing => 2
  | .counting => 1
  | .ended _ => 0

/-- No file has changed and nothing was printed, unless the document was
placed. -/
def State.Untouched (files : FileSystem) (state : State) : Prop :=
  match state.stage with
  | .reading _ _ | .taking _ | .placing | .ended (.error _) =>
      state.work.files = files ∧ state.work.printed = []
  | .counting | .ended (.ok _) => True

variable {job : Job} {input : Bytes} {state next : State}

theorem Moves.outcome_eq (moves : job.Moves input state next) :
    next.outcome job input = state.outcome job input := by
  cases moves with
  | read found => exact (Work.outcomeOfReading_of_ok found _ _).symm
  | unread failed => exact (Work.outcomeOfReading_of_error failed _ _).symm
  | allRead => exact (Work.outcomeOfReading_nil job input _ _).symm
  | took taken =>
      simp only [State.outcome, Work.outcomeOfTaking, Tally.takeAll, taken]
  | unnamed stopped =>
      simp only [State.outcome, Work.outcomeOfTaking, Tally.takeAll, stopped]
  | allTaken => rfl
  | placed received =>
      simp only [State.outcome, Work.outcomeOfPlacing, received]
  | refused failed =>
      simp only [State.outcome, Work.outcomeOfPlacing, failed]
  | counted => rfl

/-- Only placing the document touches anything, and no step behind it fails. -/
theorem Moves.untouched {files : FileSystem}
    (moves : job.Moves input state next) (before : state.Untouched files) :
    next.Untouched files := by
  cases moves with
  | read | unread | allRead | took | unnamed | allTaken | refused =>
      exact before
  | placed | counted => trivial

private theorem Moves.weight_lt (moves : job.Moves input state next) :
    next.weight < state.weight := by
  cases moves with
  | read =>
      simp only [State.weight, List.length_cons, List.length_append,
        List.length_nil]
      omega
  | unread | unnamed =>
      simp only [State.weight]
      omega
  | allRead | took =>
      simp only [State.weight, List.length_cons, List.length_nil]
      omega
  | allTaken | placed | refused | counted =>
      simp only [State.weight, List.length_nil]
      omega

theorem exists_moves (job : Job) (input : Bytes) (state : State) :
    (∃ status : Except JobFault Nat, state.stage = .ended status) ∨
      ∃ next : State, job.Moves input state next := by
  obtain ⟨stage, work⟩ := state
  cases stage with
  | reading read left =>
      cases left with
      | nil => exact .inr ⟨_, .allRead⟩
      | cons source left =>
          cases found : commentOfSource
              (source.bytes ⟨work.files, input⟩) with
          | ok comment => exact .inr ⟨_, .read found⟩
          | error fault => exact .inr ⟨_, .unread found⟩
  | taking left =>
      cases left with
      | nil => exact .inr ⟨_, .allTaken⟩
      | cons comment left =>
          cases taken : work.tally.take job.fallbackName job.styleName
              comment with
          | mk outcome tally =>
              cases outcome with
              | ok => exact .inr ⟨_, .took taken⟩
              | error fault => exact .inr ⟨_, .unnamed taken⟩
  | placing =>
      cases placed : job.destination.place work.tally.document work.files with
      | ok received => exact .inr ⟨_, .placed placed⟩
      | error fault => exact .inr ⟨_, .refused placed⟩
  | counting => exact .inr ⟨_, .counted⟩
  | ended status => exact .inl ⟨status, rfl⟩

/-! ### Whole courses -/

variable {surroundings : Surroundings}

private theorem bytes_reads (job : Job) (surroundings : Surroundings) :
    (job.reads.map fun source => source.bytes surroundings) =
      job.sources surroundings := by
  unfold reads sources
  cases job.inputs with
  | nil => rfl
  | cons path paths => simp [Source.bytes]

private theorem outcomeOfPlacing_tally (job : Job) (files : FileSystem)
    (report : Report) :
    Work.outcomeOfPlacing job { files, tally := report.tally } =
      job.deliver files report := by
  have messages : report.tally.counted.warned =
      report.warnings ++ report.summary := by
    have total : report.tally.results.length = report.total :=
      List.length_map _
    unfold Tally.counted
    rw [total]
    unfold Report.summary
    change (if report.failures = 0 then _ else _ : Tally).warned = _
    split
    · exact (List.append_nil _).symm
    · rfl
  rw [deliver_eq]
  unfold Work.outcomeOfPlacing Work.outcomeOfCounting
  change (match job.destination.place report.document files with
    | .ok (added, files) => _
    | .error fault => _) = _
  cases job.destination.place report.document files with
  | error fault => rfl
  | ok received =>
      simp only [Work.closed, messages]
      rfl

private theorem outcome_begun (job : Job) (surroundings : Surroundings) :
    (job.begun surroundings).outcome job surroundings.standardInput =
      job.run surroundings := by
  obtain ⟨files, input⟩ := surroundings
  change Work.outcomeOfReading job input { files } [] job.reads = _
  unfold Work.outcomeOfReading
  rw [bytes_reads]
  cases read : (job.sources ⟨files, input⟩).mapM commentOfSource with
  | error fault =>
      rw [run_of_unread read]
      rfl
  | ok comments =>
      have reads := mapM_commentOfSource_eq_ok_iff.mp read
      rw [run_of_reads reads]
      unfold Work.outcomeOfTaking
      simp only [List.nil_append, Report.takeAll_eq_ofCommentsNamed]
      cases Report.ofCommentsNamed job.fallbackName job.styleName
          comments with
      | error fault => rfl
      | ok report => exact outcomeOfPlacing_tally job files report

/-- Every state on the course of a job leads to its outcome. -/
theorem Course.outcome_eq (course : job.Course surroundings state) :
    state.outcome job surroundings.standardInput = job.run surroundings := by
  induction course with
  | begun => exact outcome_begun job surroundings
  | step course moves ih => exact moves.outcome_eq.trans ih

theorem Course.untouched (course : job.Course surroundings state) :
    state.Untouched surroundings.files := by
  induction course with
  | begun => exact ⟨rfl, rfl⟩
  | step course moves ih => exact moves.untouched ih

theorem Course.exists_ended (course : job.Course surroundings state) :
    ∃ (status : Except JobFault Nat) (work : Work),
      job.Course surroundings ⟨.ended status, work⟩ := by
  induction bound : state.weight using Nat.strongRecOn generalizing state with
  | ind weight ih =>
      rcases job.exists_moves surroundings.standardInput state with
        ⟨status, ended⟩ | ⟨next, moves⟩
      · obtain ⟨stage, work⟩ := state
        obtain rfl : stage = .ended status := ended
        exact ⟨status, work, course⟩
      · have less := moves.weight_lt
        rw [bound] at less
        exact ih next.weight less (course.step moves) rfl

/-- A job that fails has touched nothing at any time. -/
private theorem Course.untouched_of_failed {fault : JobFault}
    (course : job.Course surroundings state)
    (failed : (job.run surroundings).status = .error fault) :
    state.work.files = surroundings.files ∧ state.work.printed = [] := by
  have untouched := course.untouched
  rw [← course.outcome_eq] at failed
  obtain ⟨stage, work⟩ := state
  cases stage with
  | reading read left => exact untouched
  | taking left => exact untouched
  | placing => exact untouched
  | counting => cases failed
  | ended status =>
      cases status with
      | error other => exact untouched
      | ok status => cases failed

private theorem exists_first_unread
    (broken : ∃ source ∈ job.sources surroundings, ∃ fault : JobFault,
      commentOfSource source = .error fault) :
    ∃ fault : JobFault,
      (job.sources surroundings).mapM commentOfSource = .error fault := by
  obtain ⟨source, member, fault, failed⟩ := broken
  cases read : (job.sources surroundings).mapM commentOfSource with
  | error first => exact ⟨first, rfl⟩
  | ok comments =>
      rw [mapM_commentOfSource_eq_ok_iff] at read
      obtain ⟨comment, succeeded⟩ := exists_comment_of_mem read member
      rw [succeeded] at failed
      cases failed

private theorem status_eq_setting_iff {fault : SettingFault} :
    (job.run surroundings).status = .error (.setting fault) ↔
      (∃ comments : List Text, job.Reads surroundings comments) ∧
        Settings.ofNames job.fallbackName job.styleName = .error fault := by
  constructor
  · intro status
    have ends := job.ends_run surroundings
    generalize job.run surroundings = outcome at status ends
    cases ends with
    | unread failed =>
        obtain ⟨-, -, source, -, -, found⟩ :=
          mapM_commentOfSource_eq_error_iff.mp failed
        cases status
        rcases commentOfSource_eq_error_iff.mp found with
          ⟨refusal, -, impossible⟩ | ⟨bytes, broken, -, -, impossible⟩
        · cases impossible
        · cases impossible
    | unnamed read unknown =>
        cases status
        exact ⟨⟨_, read⟩, unknown⟩
    | refused read named failed =>
        cases status
        rcases Destination.place_eq_error_iff.mp failed with
          ⟨-, impossible⟩ | ⟨path, refusal, -, -, impossible⟩
        · cases impossible
        · cases impossible
    | delivered => cases status
  · rintro ⟨⟨comments, read⟩, unknown⟩
    rw [run_of_unnamed read unknown]

theorem received_of_status {status : Nat}
    (returned : (job.run surroundings).status = .ok status) :
    ∃ (comments : List Text) (settings : Settings),
      job.Reads surroundings comments ∧
        Settings.ofNames job.fallbackName job.styleName = .ok settings ∧
        job.destination.Received (documentOf settings comments)
          surroundings.files (job.run surroundings).standardOutput
          (job.run surroundings).files := by
  have ends := job.ends_run surroundings
  generalize job.run surroundings = outcome at returned ends
  cases ends with
  | unread | unnamed | refused => cases returned
  | delivered read named placed =>
      exact ⟨_, _, read, named, Destination.received_of_place placed⟩

private theorem status_of_refused {comments : List Text} {settings : Settings}
    (read : job.Reads surroundings comments)
    (named : Settings.ofNames job.fallbackName job.styleName = .ok settings)
    (refuses : ¬ job.destination.Accepts surroundings.files) :
    (∃ fault : JobFault, (job.run surroundings).status = .error fault) ∧
      (job.run surroundings).standardError =
        warningsOn settings.style comments := by
  rw [run_of_named read named, deliver_ofComments]
  cases placed : job.destination.place (documentOf settings comments)
      surroundings.files with
  | error fault => exact ⟨⟨fault, rfl⟩, rfl⟩
  | ok received =>
      have accepts := (Destination.accepts_iff _).mpr ⟨_, _, placed⟩
      exact absurd accepts refuses

theorem failed_touches_nothing {fault : JobFault}
    (failed : (job.run surroundings).status = .error fault) :
    (job.run surroundings).files = surroundings.files ∧
      (job.run surroundings).standardOutput = [] := by
  obtain ⟨status, work, course⟩ :=
    (Course.begun : job.Course surroundings _).exists_ended
  have untouched := course.untouched_of_failed failed
  rw [← course.outcome_eq]
  exact untouched

end Job

/-- A job that fails has changed no file and printed nothing, at any point of
its course; one that returns has changed its destination only, and what it put
there was settled by its modes and sources alone. -/
theorem run_orderly (job : Job) (surroundings : Surroundings) :
    job.Orderly surroundings := by
  refine
    { ends := Job.Course.begun.exists_ended
      agrees := fun status work course => course.outcome_eq.symm
      failed := ?_
      unread := ?_
      unnamed := fun fault => Job.status_eq_setting_iff
      refused := fun comments settings read named refuses =>
        Job.status_of_refused read named refuses
      returned := ?_ }
  · intro fault failed
    obtain ⟨files, printed⟩ := Job.failed_touches_nothing failed
    exact ⟨files, printed,
      fun state course => course.untouched_of_failed failed⟩
  · intro broken
    obtain ⟨fault, failed⟩ := Job.exists_first_unread broken
    obtain ⟨before, after, source, split, sound, found⟩ :=
      mapM_commentOfSource_eq_error_iff.mp failed
    rw [Job.run_of_unread failed]
    exact ⟨before, after, source, fault, split, sound, found, rfl, rfl⟩
  · intro status returned
    obtain ⟨comments, settings, read, named, received⟩ :=
      Job.received_of_status returned
    refine ⟨documentOf settings comments, received, ?_⟩
    intro other elsewhere status' sources fallback style returned'
    obtain ⟨comments', settings', read', named', received'⟩ :=
      Job.received_of_status returned'
    have sameComments : comments' = comments := by
      unfold Job.Reads at read read'
      rw [← mapM_commentOfSource_eq_ok_iff] at read read'
      rw [sources, read] at read'
      exact (Except.ok.inj read').symm
    have sameSettings : settings' = settings := by
      rw [fallback, style, named] at named'
      exact (Except.ok.inj named').symm
    rw [sameComments, sameSettings] at received'
    exact received'

/-- A file converted in place holds what it would hold elsewhere. -/
theorem run_orderly_in_place :
    let input : Path := ⟨.working, ["note".toList]⟩
    let output : Path := ⟨.working, ["out".toList]⟩
    let files : FileSystem :=
      ⟨[(["note".toList], .file (Utf8.encode "@b x".toList))], []⟩
    let job (path : Path) : Job :=
      ⟨[input], .file path, "drop".toList, "code".toList, false⟩
    ∃ document : Text,
      ((job input).run ⟨files, []⟩).files.read input =
          .ok (Utf8.encode document) ∧
        ((job output).run ⟨files, []⟩).files.read output =
          .ok (Utf8.encode document) := by
  intro input output files job
  obtain ⟨document, received, elsewhere⟩ :=
    (run_orderly (job input) ⟨files, []⟩).returned 0 (by decide +kernel)
  have received' := elsewhere (job output) ⟨files, []⟩ 0 rfl rfl rfl
    (by decide +kernel)
  exact ⟨document, received.2.1, received'.2.1⟩

end DocTag
