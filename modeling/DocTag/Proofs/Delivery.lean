import DocTag.Job
import DocTag.Proofs.Storage
import DocTag.Proofs.Tally
import Mathlib.Data.List.Forall2
/-!
What a job delivers.

A job can end in four ways: at the first source that cannot be read, at a mode
that there is not, at a destination that refuses the document, or with the
document delivered.  The document is made of the results that are left, one
under the other; a comment that was dropped leaves no trace in it, while the
status, the warnings and the count still tell of it.
-/

namespace DocTag

namespace Destination

def place (destination : Destination) (document : Text) (files : FileSystem) :
    Except JobFault (Text × FileSystem) :=
  match destination with
  | .standardOutput => .ok (document, files)
  | .nowhere => .error .destinationMissing
  | .file path =>
      match files.write path (Utf8.encode document) with
      | .ok written => .ok ([], written)
      | .error fault => .error (.access fault)

/-- Whether a document can be put at the destination, whatever it holds. -/
def Accepts (destination : Destination) (files : FileSystem) : Prop :=
  match destination with
  | .standardOutput => True
  | .nowhere => False
  | .file path => ∃ written : FileSystem, files.write path [] = .ok written

/-- The document stands at the destination, and nothing else was printed and
no other place has changed. -/
def Received (destination : Destination) (document : Text)
    (before : FileSystem) (printed : Text) (after : FileSystem) : Prop :=
  match destination with
  | .standardOutput => printed = document ∧ after = before
  | .nowhere => False
  | .file path =>
      printed = [] ∧ after.read path = .ok (Utf8.encode document) ∧
        after.working = before.working ∧
        ∃ place : Place, before.resolve path = .ok place ∧
          after.node? place = some (.file (Utf8.encode document)) ∧
          ∀ other : Place, other ≠ place →
            after.node? other = before.node? other

theorem received_of_place {destination : Destination} {document : Text}
    {before : FileSystem} {printed : Text} {after : FileSystem}
    (placed : destination.place document before = .ok (printed, after)) :
    destination.Received document before printed after := by
  cases destination with
  | standardOutput =>
      cases placed
      exact ⟨rfl, rfl⟩
  | nowhere => cases placed
  | file path =>
      unfold place at placed
      cases written : before.write path (Utf8.encode document) with
      | error fault =>
          simp only [written] at placed
          cases placed
      | ok system =>
          simp only [written] at placed
          cases placed
          have content := FileSystem.read_of_write written
          obtain ⟨-, place, resolved, free, rfl⟩ :=
            FileSystem.write_eq_ok_iff.mp written
          refine ⟨rfl, content, rfl, place, resolved, ?_, ?_⟩
          · exact before.node?_put_self _ (FileSystem.ne_root_of_node? free)
          · intro other apart
            exact before.node?_put_of_ne _ apart

theorem place_eq_error_iff {destination : Destination} {document : Text}
    {files : FileSystem} {fault : JobFault} :
    destination.place document files = .error fault ↔
      destination = .nowhere ∧ fault = .destinationMissing ∨
        ∃ (path : Path) (refusal : AccessFault), destination = .file path ∧
          files.write path (Utf8.encode document) = .error refusal ∧
            fault = .access refusal := by
  unfold place
  cases destination with
  | standardOutput => simp
  | nowhere => simp [eq_comm]
  | file path =>
      cases written : files.write path (Utf8.encode document) with
      | error refusal => simp [written, eq_comm]
      | ok system => simp [written]

theorem accepts_iff {destination : Destination} {files : FileSystem}
    (document : Text) :
    destination.Accepts files ↔ ∃ (printed : Text) (after : FileSystem),
      destination.place document files = .ok (printed, after) := by
  cases destination with
  | standardOutput => exact ⟨fun _ => ⟨document, files, rfl⟩, fun _ => trivial⟩
  | nowhere =>
      constructor
      · intro impossible
        cases impossible
      · rintro ⟨printed, after, placed⟩
        cases placed
  | file path =>
      unfold place
      constructor
      · rintro ⟨written, accepted⟩
        obtain ⟨system, possible⟩ :=
          FileSystem.exists_write_of_write accepted (Utf8.encode document)
        exact ⟨[], system, by simp only [possible]⟩
      · rintro ⟨printed, after, placed⟩
        cases written : files.write path (Utf8.encode document) with
        | error fault =>
            simp only [written] at placed
            cases placed
        | ok system => exact FileSystem.exists_write_of_write written []

end Destination

theorem commentOfSource_eq_error_iff {source : Except AccessFault Bytes}
    {fault : JobFault} :
    commentOfSource source = .error fault ↔
      (∃ refusal : AccessFault, source = .error refusal ∧
          fault = .access refusal) ∨
        ∃ (bytes : Bytes) (broken : Utf8.Fault), source = .ok bytes ∧
          Utf8.decode bytes = .error broken ∧ fault = .encoding broken := by
  cases source with
  | error refusal => simp [commentOfSource, eq_comm]
  | ok bytes =>
      unfold commentOfSource
      cases decoded : Utf8.decode bytes with
      | error broken => simp [decoded, eq_comm]
      | ok text => simp [decoded]

/-- Reading sources in a row fails with the first of them that fails. -/
theorem mapM_commentOfSource_eq_error_iff
    {sources : List (Except AccessFault Bytes)} {fault : JobFault} :
    sources.mapM commentOfSource = .error fault ↔
      ∃ (before after : List (Except AccessFault Bytes))
        (source : Except AccessFault Bytes),
        sources = before ++ source :: after ∧
          (∀ earlier ∈ before, ∃ comment : Text,
            commentOfSource earlier = .ok comment) ∧
          commentOfSource source = .error fault := by
  induction sources with
  | nil =>
      constructor
      · intro impossible
        cases impossible
      · rintro ⟨before, after, source, split, -⟩
        cases before <;> cases split
  | cons first rest ih =>
      rw [List.mapM_cons]
      cases read : commentOfSource first with
      | error other =>
          constructor
          · intro failed
            cases failed
            refine ⟨[], rest, first, rfl, ?_, read⟩
            intro earlier member
            cases member
          · rintro ⟨before, after, source, split, sound, failed⟩
            cases before with
            | nil =>
                cases split
                rw [read] at failed
                cases failed
                rfl
            | cons earlier before =>
                cases split
                obtain ⟨comment, succeeded⟩ := sound _ List.mem_cons_self
                rw [read] at succeeded
                cases succeeded
      | ok comment =>
          have behind : (do
              let comments ← rest.mapM commentOfSource
              pure (comment :: comments)) = Except.error fault ↔
                rest.mapM commentOfSource = .error fault := by
            cases rest.mapM commentOfSource <;>
              simp [bind, Except.bind, pure, Except.pure]
          refine Iff.trans behind (ih.trans ?_)
          constructor
          · rintro ⟨before, after, source, rfl, sound, failed⟩
            refine ⟨first :: before, after, source, rfl, ?_, failed⟩
            intro earlier member
            rcases List.mem_cons.mp member with rfl | later
            · exact ⟨comment, read⟩
            · exact sound earlier later
          · rintro ⟨before, after, source, split, sound, failed⟩
            cases before with
            | nil =>
                cases split
                rw [read] at failed
                cases failed
            | cons earlier before =>
                cases split
                refine ⟨before, after, source, rfl, ?_, failed⟩
                intro other member
                exact sound other (List.mem_cons_of_mem _ member)

theorem mapM_commentOfSource_eq_ok_iff
    {sources : List (Except AccessFault Bytes)} {comments : List Text} :
    sources.mapM commentOfSource = .ok comments ↔
      List.Forall₂ (fun source comment => commentOfSource source = .ok comment)
        sources comments := by
  induction sources generalizing comments with
  | nil =>
      rw [List.forall₂_nil_left_iff]
      exact ⟨fun read => (Except.ok.inj read).symm, fun empty => empty ▸ rfl⟩
  | cons first rest ih =>
      rw [List.mapM_cons, List.forall₂_cons_left_iff]
      cases read : commentOfSource first with
      | error fault => simp [bind, Except.bind]
      | ok comment =>
          simp only [← ih]
          cases rest.mapM commentOfSource with
          | error fault => simp [bind, Except.bind]
          | ok others => simp [bind, Except.bind, pure, Except.pure, eq_comm]

theorem exists_comment_of_mem {sources : List (Except AccessFault Bytes)}
    {comments : List Text}
    (read : List.Forall₂
      (fun source comment => commentOfSource source = .ok comment)
      sources comments)
    {source : Except AccessFault Bytes} (member : source ∈ sources) :
    ∃ comment : Text, commentOfSource source = .ok comment := by
  induction read with
  | nil => cases member
  | cons found read ih =>
      rcases List.mem_cons.mp member with rfl | later
      · exact ⟨_, found⟩
      · exact ih later

def stacked : List Text → Text
  | [] => []
  | [text] => text
  | text :: next :: rest => text ++ '\n' :: stacked (next :: rest)

def survivors (settings : Settings) (comments : List Text) : List Text :=
  comments.filterMap settings.result?

def documentOf (settings : Settings) (comments : List Text) : Text :=
  let text := stacked (survivors settings comments)
  if text = [] ∨ text.getLast? = some '\n' then text else text ++ ['\n']

def countOf (style : ReferenceStyle) (comments : List Text) : Text :=
  if faulty style comments = [] then []
  else Text.decimal (faulty style comments).length ++ "/".toList ++
    Text.decimal comments.length ++ " comments could not be converted\n".toList

def statusOf (strict : Bool) (style : ReferenceStyle) (comments : List Text) :
    Nat :=
  if strict = true ∧ faulty style comments ≠ [] then 1 else 0

theorem join_newline (texts : List Text) :
    Text.join ['\n'] texts = stacked texts := by
  unfold Text.join
  induction texts with
  | nil => rfl
  | cons text rest ih =>
      cases rest with
      | nil => exact List.append_nil text
      | cons next rest =>
          rw [List.intersperse_cons_cons, List.flatten_cons, List.flatten_cons, ih]
          rfl

namespace Report

theorem document_ofComments (settings : Settings) (comments : List Text) :
    (ofComments settings comments).document = documentOf settings comments := by
  unfold document documentOf closeLine survivors
  rw [results_ofComments, List.filterMap_map, join_newline]
  simp [id]

theorem summary_ofComments (settings : Settings) (comments : List Text) :
    (ofComments settings comments).summary =
      countOf settings.style comments := by
  unfold summary countOf
  rw [failures_ofComments, total_ofComments]
  by_cases sound : faulty settings.style comments = []
  · rw [if_pos sound, if_pos (List.length_eq_zero_iff.mpr sound)]
  · rw [if_neg sound, if_neg (mt List.length_eq_zero_iff.mp sound)]

theorem status_ofComments (settings : Settings) (comments : List Text)
    (strict : Bool) :
    (ofComments settings comments).status strict =
      statusOf strict settings.style comments := by
  unfold status statusOf
  rw [failures_ofComments]
  simp

end Report

/-! ### How a job ends -/

namespace Job

/-- The comments in the sources of a job, when each of them can be read. -/
def Reads (job : Job) (surroundings : Surroundings) (comments : List Text) :
    Prop :=
  List.Forall₂ (fun source comment => commentOfSource source = .ok comment)
    (job.sources surroundings) comments

/-- The ways in which a job ends, and what each of them leaves behind. -/
inductive Ends (job : Job) (surroundings : Surroundings) : JobOutcome → Prop
  | unread {fault : JobFault}
      (failed : (job.sources surroundings).mapM commentOfSource =
        .error fault) :
      Ends job surroundings ⟨.error fault, [], [], surroundings.files⟩
  | unnamed {comments : List Text} {fault : SettingFault}
      (read : job.Reads surroundings comments)
      (unknown : Settings.ofNames job.fallbackName job.styleName =
        .error fault) :
      Ends job surroundings
        ⟨.error (.setting fault), [], [], surroundings.files⟩
  | refused {comments : List Text} {settings : Settings} {fault : JobFault}
      (read : job.Reads surroundings comments)
      (named : Settings.ofNames job.fallbackName job.styleName = .ok settings)
      (failed : job.destination.place (documentOf settings comments)
        surroundings.files = .error fault) :
      Ends job surroundings
        ⟨.error fault, [], warningsOn settings.style comments,
          surroundings.files⟩
  | delivered {comments : List Text} {settings : Settings} {printed : Text}
      {after : FileSystem}
      (read : job.Reads surroundings comments)
      (named : Settings.ofNames job.fallbackName job.styleName = .ok settings)
      (placed : job.destination.place (documentOf settings comments)
        surroundings.files = .ok (printed, after)) :
      Ends job surroundings
        ⟨.ok (statusOf job.strict settings.style comments), printed,
          warningsOn settings.style comments ++
            countOf settings.style comments,
          after⟩

private theorem sources_ne_nil (job : Job) (surroundings : Surroundings) :
    job.sources surroundings ≠ [] := by
  unfold sources
  cases job.inputs <;> simp

theorem Reads.ne_nil {job : Job} {surroundings : Surroundings}
    {comments : List Text} (read : job.Reads surroundings comments) :
    comments ≠ [] := by
  intro empty
  subst empty
  exact job.sources_ne_nil surroundings (List.forall₂_nil_right_iff.mp read)

theorem deliver_eq (job : Job) (files : FileSystem) (report : Report) :
    job.deliver files report =
      match job.destination.place report.document files with
      | .ok (printed, after) =>
          ⟨.ok (report.status job.strict), printed,
            report.warnings ++ report.summary, after⟩
      | .error fault => ⟨.error fault, [], report.warnings, files⟩ := by
  unfold deliver Destination.place
  cases job.destination with
  | standardOutput => rfl
  | nowhere => rfl
  | file path =>
      simp only
      cases files.write path (Utf8.encode report.document) <;> rfl

theorem deliver_ofComments (job : Job) (files : FileSystem)
    (settings : Settings) (comments : List Text) :
    job.deliver files (Report.ofComments settings comments) =
      match job.destination.place (documentOf settings comments) files with
      | .ok (printed, after) =>
          ⟨.ok (statusOf job.strict settings.style comments), printed,
            warningsOn settings.style comments ++
              countOf settings.style comments,
            after⟩
      | .error fault =>
          ⟨.error fault, [], warningsOn settings.style comments, files⟩ := by
  rw [deliver_eq, Report.document_ofComments, Report.warnings_ofComments,
    Report.summary_ofComments, Report.status_ofComments]

theorem run_of_unread {job : Job} {surroundings : Surroundings}
    {fault : JobFault}
    (failed : (job.sources surroundings).mapM commentOfSource =
      .error fault) :
    job.run surroundings = ⟨.error fault, [], [], surroundings.files⟩ := by
  unfold run report
  rw [failed]
  rfl

theorem run_of_reads {job : Job} {surroundings : Surroundings}
    {comments : List Text} (read : job.Reads surroundings comments) :
    job.run surroundings =
      match Report.ofCommentsNamed job.fallbackName job.styleName comments with
      | .ok report => job.deliver surroundings.files report
      | .error fault =>
          ⟨.error (.setting fault), [], [], surroundings.files⟩ := by
  unfold run report
  rw [mapM_commentOfSource_eq_ok_iff.mpr read]
  simp only [bind, Except.bind]
  cases Report.ofCommentsNamed job.fallbackName job.styleName comments <;> rfl

theorem run_of_unnamed {job : Job} {surroundings : Surroundings}
    {comments : List Text} {fault : SettingFault}
    (read : job.Reads surroundings comments)
    (unknown : Settings.ofNames job.fallbackName job.styleName =
      .error fault) :
    job.run surroundings =
      ⟨.error (.setting fault), [], [], surroundings.files⟩ := by
  have unreported := Report.ofCommentsNamed_eq_error_iff.mpr
    ⟨read.ne_nil, unknown⟩
  rw [run_of_reads read, unreported]

theorem run_of_named {job : Job} {surroundings : Surroundings}
    {comments : List Text} {settings : Settings}
    (read : job.Reads surroundings comments)
    (named : Settings.ofNames job.fallbackName job.styleName =
      .ok settings) :
    job.run surroundings =
      job.deliver surroundings.files (Report.ofComments settings comments) := by
  obtain ⟨comment, rest, rfl⟩ := List.exists_cons_of_ne_nil read.ne_nil
  rw [run_of_reads read, Report.ofCommentsNamed_cons, named]
  rfl

theorem ends_run (job : Job) (surroundings : Surroundings) :
    job.Ends surroundings (job.run surroundings) := by
  cases read : (job.sources surroundings).mapM commentOfSource with
  | error fault =>
      rw [run_of_unread read]
      exact .unread read
  | ok comments =>
      rw [mapM_commentOfSource_eq_ok_iff] at read
      cases named : Settings.ofNames job.fallbackName job.styleName with
      | error fault =>
          rw [run_of_unnamed read named]
          exact .unnamed read named
      | ok settings =>
          rw [run_of_named read named, deliver_ofComments]
          cases placed : job.destination.place
              (documentOf settings comments) surroundings.files with
          | error fault => exact .refused read named placed
          | ok received => exact .delivered read named placed

theorem received_of_accepts {job : Job} {surroundings : Surroundings}
    {comments : List Text} {settings : Settings}
    (read : job.Reads surroundings comments)
    (named : Settings.ofNames job.fallbackName job.styleName = .ok settings)
    (accepts : job.destination.Accepts surroundings.files) :
    job.destination.Received (documentOf settings comments)
        surroundings.files (job.run surroundings).standardOutput
        (job.run surroundings).files ∧
      (job.run surroundings).status =
        .ok (statusOf job.strict settings.style comments) ∧
      (job.run surroundings).standardError =
        warningsOn settings.style comments ++
          countOf settings.style comments := by
  obtain ⟨printed, after, placed⟩ :=
    (Destination.accepts_iff (documentOf settings comments)).mp accepts
  rw [run_of_named read named, deliver_ofComments, placed]
  exact ⟨Destination.received_of_place placed, rfl, rfl⟩

end Job

private theorem documentOf_closed (settings : Settings) (comments : List Text) :
    documentOf settings comments = [] ∨
      (documentOf settings comments).getLast? = some '\n' := by
  unfold documentOf
  by_cases closed : stacked (survivors settings comments) = [] ∨
      (stacked (survivors settings comments)).getLast? = some '\n'
  · simp only [if_pos closed]
    exact closed
  · simp only [if_neg closed]
    exact .inr List.getLast?_concat

/-- A comment that is dropped might as well not have been there. -/
private theorem survivors_drop_filter (style : ReferenceStyle)
    (comments : List Text) :
    survivors ⟨.drop, style⟩
        (comments.filter fun comment => (comment.fault? style).isNone) =
      survivors ⟨.drop, style⟩ comments := by
  induction comments with
  | nil => rfl
  | cons comment comments ih =>
      unfold survivors at ih ⊢
      cases broken : comment.fault? style with
      | none =>
          rw [List.filter_cons_of_pos (by rw [broken]; rfl),
            List.filterMap_cons, List.filterMap_cons, ih]
      | some fault =>
          have failed := Text.fault?_eq_some_iff.mp broken
          have dropped : (⟨.drop, style⟩ : Settings).result? comment = none :=
            Settings.result?_of_error failed
          rw [List.filter_cons_of_neg (by rw [broken]; simp),
            List.filterMap_cons_none dropped, ih]

theorem survivors_drop (style : ReferenceStyle) (comments : List Text) :
    survivors ⟨.drop, style⟩ comments =
      comments.filterMap fun comment => (convert style comment).toOption := by
  unfold survivors
  congr 1
  funext comment
  cases converted : convert style comment with
  | ok markdown => exact Settings.result?_of_ok converted
  | error fault => exact Settings.result?_of_error converted

theorem survivors_keep (style : ReferenceStyle) (comments : List Text) :
    survivors ⟨.keep, style⟩ comments =
      comments.map fun comment =>
        (convert style comment).toOption.getD comment := by
  unfold survivors
  rw [← List.filterMap_eq_map]
  congr 1
  funext comment
  unfold Settings.result? Attempt.ofComment Attempt.result?
  simp only [Function.comp_apply]
  cases convert style comment <;> rfl

/-- The document of a batch is made of the results that are left, and closed
by a line feed.  A comment that was dropped leaves nothing in it, one that was
kept its own text; the status and the messages tell of both. -/
theorem run_delivers_survivors {job : Job} {surroundings : Surroundings}
    {comments : List Text} {settings : Settings}
    (read : job.Reads surroundings comments)
    (named : Settings.ofNames job.fallbackName job.styleName = .ok settings)
    (accepts : job.destination.Accepts surroundings.files) :
    ∃ document : Text,
      job.destination.Received document surroundings.files
          (job.run surroundings).standardOutput
          (job.run surroundings).files ∧
        document = documentOf settings comments ∧
        (document = [] ∨ document.getLast? = some '\n') ∧
        (settings.fallback = .drop →
          survivors settings comments =
              comments.filterMap (fun comment =>
                (convert settings.style comment).toOption) ∧
            ((∀ comment ∈ comments, ∃ fault : AttributeFault,
                convert settings.style comment = .error fault) →
              document = []) ∧
            ∀ (other : Job) (elsewhere : Surroundings),
              other.Reads elsewhere
                  (comments.filter fun comment =>
                    (comment.fault? settings.style).isNone) →
                Settings.ofNames other.fallbackName other.styleName =
                    .ok settings →
                  other.destination.Accepts elsewhere.files →
                    other.destination.Received document elsewhere.files
                      (other.run elsewhere).standardOutput
                      (other.run elsewhere).files) ∧
        (settings.fallback = .keep →
          survivors settings comments =
            comments.map fun comment =>
              (convert settings.style comment).toOption.getD comment) ∧
        (job.run surroundings).status =
          .ok (if job.strict = true ∧ faulty settings.style comments ≠ [] then
            1 else 0) ∧
        (job.run surroundings).standardError =
          warningsOn settings.style comments ++
            countOf settings.style comments := by
  obtain ⟨received, status, messages⟩ :=
    Job.received_of_accepts read named accepts
  refine ⟨documentOf settings comments, received, rfl,
    documentOf_closed settings comments, ?_, ?_, status, messages⟩
  · intro drops
    obtain ⟨fallback, style⟩ := settings
    obtain rfl : fallback = .drop := drops
    have alike : documentOf ⟨.drop, style⟩
        (comments.filter fun comment => (comment.fault? style).isNone) =
          documentOf ⟨.drop, style⟩ comments := by
      unfold documentOf
      rw [survivors_drop_filter]
    refine ⟨survivors_drop style comments, ?_, ?_⟩
    · intro broken
      have none : survivors ⟨.drop, style⟩ comments = [] := by
        rw [survivors_drop, List.filterMap_eq_nil_iff]
        intro comment member
        obtain ⟨fault, failed⟩ := broken comment member
        rw [failed]
        rfl
      unfold documentOf
      rw [none]
      rfl
    · intro other elsewhere read' named' accepts'
      have received' := (Job.received_of_accepts read' named' accepts').1
      rw [alike] at received'
      exact received'
  · intro keeps
    obtain ⟨fallback, style⟩ := settings
    obtain rfl : fallback = .keep := keeps
    exact survivors_keep style comments

/-- The list of the first comment has no end; the second is converted. -/
theorem run_delivers_survivors_dropped :
    let bad : Path := ⟨.working, ["bad".toList]⟩
    let good : Path := ⟨.working, ["good".toList]⟩
    let result : Path := ⟨.working, ["out".toList]⟩
    let files : FileSystem :=
      ⟨[(["bad".toList], .file (Utf8.encode "@param[in x".toList)),
        (["good".toList], .file (Utf8.encode "@c ok".toList))], []⟩
    let job : Job := ⟨[bad, good], .file result, "drop".toList, "code".toList,
      true⟩
    (job.run ⟨files, []⟩).status = .ok 1 ∧
      (job.run ⟨files, []⟩).files.read result =
        .ok (Utf8.encode "`ok`\n".toList) := by
  intro bad good result files job
  have read : job.Reads ⟨files, []⟩
      ["@param[in x".toList, "@c ok".toList] := by
    refine .cons ?_ (.cons ?_ .nil) <;> decide +kernel
  have named : Settings.ofNames job.fallbackName job.styleName =
      .ok ⟨.drop, .code⟩ := by
    decide
  have accepts : job.destination.Accepts files :=
    ⟨files.put ["out".toList] (.file []), by decide +kernel⟩
  obtain ⟨document, received, written, -, -, -, status, -⟩ :=
    run_delivers_survivors read named accepts
  have text : document = "`ok`\n".toList := by
    rw [written]
    decide +kernel
  rw [text] at received
  refine ⟨?_, received.2.1⟩
  rw [status]
  decide +kernel

end DocTag
