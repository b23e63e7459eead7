import DocTag.Batch
import DocTag.Proofs.Run
/-!
Batches gathered one comment at a time.

A tally takes the comments in their order.  It looks at its modes anew for
each of them, and keeps what it has when it meets a mode that there is not.
What it ends with is the report on the whole batch: a result for each comment,
and a warning for each comment that failed.  So a mode that there is not stops
a batch at its first comment, before anything was warned of, and what becomes
of a comment never depends on its neighbours.
-/

namespace DocTag

def Text.fault? (style : ReferenceStyle) (comment : Text) :
    Option AttributeFault :=
  match convert style comment with
  | .ok _ => none
  | .error fault => some fault

def faulty (style : ReferenceStyle) (comments : List Text) :
    List (Text × AttributeFault) :=
  comments.filterMap fun comment =>
    (comment.fault? style).map fun fault => (comment, fault)

def AttributeFault.warning (fault : AttributeFault) (comment : Text) : Text :=
  "warning: Problem processing doxygen comment: ".toList ++ comment ++
    "\n".toList ++ fault.message ++ "\n".toList

def warningsOn (style : ReferenceStyle) (comments : List Text) : Text :=
  (faulty style comments).flatMap fun (comment, fault) => fault.warning comment

/-- What was gathered from the comments taken so far: their results, how many
of them failed, and what was printed about those. -/
structure Tally where
  results : List (Option Text) := []
  failures : Nat := 0
  warned : Text := []
deriving DecidableEq, Repr

namespace Tally

def add (tally : Tally) (settings : Settings) (comment : Text) : Tally :=
  match convert settings.style comment with
  | .ok markdown => { tally with results := tally.results ++ [some markdown] }
  | .error fault =>
      let kept :=
        match settings.fallback with
        | .drop => none
        | .keep => some comment
      { results := tally.results ++ [kept],
        failures := tally.failures + 1,
        warned := tally.warned ++ fault.warning comment }

def take (fallbackName styleName : Text) (tally : Tally) (comment : Text) :
    Except SettingFault Unit × Tally :=
  match Settings.ofNames fallbackName styleName with
  | .ok settings => (.ok (), tally.add settings comment)
  | .error fault => (.error fault, tally)

def takeAll (fallbackName styleName : Text) (tally : Tally) :
    List Text → Except SettingFault Unit × Tally
  | [] => (.ok (), tally)
  | comment :: comments =>
      match tally.take fallbackName styleName comment with
      | (.ok (), next) => next.takeAll fallbackName styleName comments
      | (.error fault, stopped) => (.error fault, stopped)

end Tally

namespace Report

/-- The report on a batch says of each comment what the conversion of that
comment alone says. -/
structure Pointwise (report : Report) (settings : Settings)
    (comments : List Text) : Prop where
  total : report.total = comments.length
  length_results : report.results.length = comments.length
  result : ∀ index : Nat,
    report.results[index]? = comments[index]?.map settings.result?
  result_none : ∀ (index : Nat) (comment : Text),
    comments[index]? = some comment →
      (report.results[index]? = some none ↔
        (∃ fault : AttributeFault,
          convert settings.style comment = .error fault) ∧
          settings.fallback = .drop)
  result_kept : ∀ (index : Nat) (comment : Text) (fault : AttributeFault),
    comments[index]? = some comment →
      convert settings.style comment = .error fault →
        settings.fallback = .keep →
          report.results[index]? = some (some comment)
  /-- The count is the same in every style, and with either fallback. -/
  failures : ∀ style : ReferenceStyle,
    report.failures =
      comments.countP fun comment => (comment.fault? style).isSome
  warnings : report.warnings = warningsOn settings.style comments

end Report

theorem Text.fault?_eq_some_iff {style : ReferenceStyle} {comment : Text}
    {fault : AttributeFault} :
    comment.fault? style = some fault ↔
      convert style comment = .error fault := by
  unfold fault?
  cases convert style comment <;> simp

theorem Text.fault?_eq_none_iff {style : ReferenceStyle} {comment : Text} :
    comment.fault? style = none ↔
      ∃ markdown : Text, convert style comment = .ok markdown := by
  unfold fault?
  cases convert style comment <;> simp

/-- The style of references has no part in what breaks a comment. -/
private theorem Text.fault?_eq (style other : ReferenceStyle) (comment : Text) :
    comment.fault? style = comment.fault? other := by
  apply Option.ext
  intro fault
  rw [fault?_eq_some_iff, fault?_eq_some_iff, convert_eq_error_iff_scan,
    convert_eq_error_iff_scan]

theorem faulty_append (style : ReferenceStyle) (front back : List Text) :
    faulty style (front ++ back) = faulty style front ++ faulty style back :=
  List.filterMap_append

theorem faulty_cons (style : ReferenceStyle) (comment : Text)
    (comments : List Text) :
    faulty style (comment :: comments) =
      ((comment.fault? style).map fun fault => (comment, fault)).toList ++
        faulty style comments := by
  unfold faulty
  rw [List.filterMap_cons]
  cases comment.fault? style <;> rfl

theorem faulty_ne_nil_iff {style : ReferenceStyle} {comments : List Text} :
    faulty style comments ≠ [] ↔ ∃ comment ∈ comments,
      ∃ fault : AttributeFault, convert style comment = .error fault := by
  constructor
  · intro nonempty
    obtain ⟨entry, member⟩ := List.exists_mem_of_ne_nil _ nonempty
    obtain ⟨comment, present, found⟩ := List.mem_filterMap.mp member
    obtain ⟨fault, failed, -⟩ := Option.map_eq_some_iff.mp found
    exact ⟨comment, present, fault, Text.fault?_eq_some_iff.mp failed⟩
  · rintro ⟨comment, present, fault, failed⟩ empty
    have sound := List.filterMap_eq_nil_iff.mp empty comment present
    rw [Text.fault?_eq_some_iff.mpr failed] at sound
    cases sound

theorem warningsOn_cons (style : ReferenceStyle) (comment : Text)
    (comments : List Text) :
    warningsOn style (comment :: comments) =
      ((comment.fault? style).elim [] fun fault => fault.warning comment) ++
        warningsOn style comments := by
  unfold warningsOn
  rw [faulty_cons, List.flatMap_append]
  cases comment.fault? style <;> simp

theorem warningsOn_append (style : ReferenceStyle) (front back : List Text) :
    warningsOn style (front ++ back) =
      warningsOn style front ++ warningsOn style back := by
  unfold warningsOn
  rw [faulty_append, List.flatMap_append]

theorem length_faulty (style : ReferenceStyle) (comments : List Text) :
    (faulty style comments).length =
      comments.countP fun comment => (comment.fault? style).isSome := by
  induction comments with
  | nil => rfl
  | cons comment comments ih =>
      rw [faulty_cons, List.length_append, ih, List.countP_cons, Nat.add_comm]
      cases comment.fault? style <;> rfl

theorem Settings.result?_of_ok {settings : Settings} {comment markdown : Text}
    (converted : convert settings.style comment = .ok markdown) :
    settings.result? comment = some markdown := by
  unfold result? Attempt.ofComment Attempt.result?
  rw [converted]

theorem Settings.result?_of_error {settings : Settings} {comment : Text}
    {fault : AttributeFault}
    (failed : convert settings.style comment = .error fault) :
    settings.result? comment =
      match settings.fallback with
      | .drop => none
      | .keep => some comment := by
  unfold result? Attempt.ofComment Attempt.result?
  rw [failed]
  cases settings.fallback <;> rfl

private theorem Attempt.failed_ofComment (style : ReferenceStyle)
    (comment : Text) :
    (ofComment style comment).failed = (comment.fault? style).isSome := by
  unfold ofComment failed Text.fault?
  cases convert style comment <;> rfl

private theorem Attempt.warning_ofComment (style : ReferenceStyle)
    (comment : Text) :
    (ofComment style comment).warning =
      (comment.fault? style).elim [] fun fault => fault.warning comment := by
  unfold ofComment warning Text.fault?
  cases convert style comment <;> rfl

namespace Report

variable (settings : Settings) (comments : List Text)

theorem results_ofComments :
    (ofComments settings comments).results =
      comments.map settings.result? := by
  unfold results ofComments
  rw [List.map_map]
  rfl

theorem total_ofComments :
    (ofComments settings comments).total = comments.length :=
  List.length_map _

theorem failures_ofComments :
    (ofComments settings comments).failures =
      (faulty settings.style comments).length := by
  rw [length_faulty]
  unfold failures ofComments
  rw [List.countP_map]
  congr 1
  funext comment
  exact Attempt.failed_ofComment settings.style comment

theorem warnings_ofComments :
    (ofComments settings comments).warnings =
      warningsOn settings.style comments := by
  unfold warnings ofComments
  induction comments with
  | nil => rfl
  | cons comment comments ih =>
      rw [List.map_cons, List.flatMap_cons, ih, warningsOn_cons,
        Attempt.warning_ofComment]

def tally (report : Report) : Tally :=
  ⟨report.results, report.failures, report.warnings⟩

theorem tally_ofComments :
    (ofComments settings comments).tally =
      { results := comments.map settings.result?
        failures := (faulty settings.style comments).length
        warned := warningsOn settings.style comments } := by
  unfold tally
  rw [results_ofComments, failures_ofComments, warnings_ofComments]

theorem tally_ofComments_append (front back : List Text) :
    (ofComments settings (front ++ back)).tally =
      { results := (ofComments settings front).results ++
          (ofComments settings back).results
        failures := (ofComments settings front).failures +
          (ofComments settings back).failures
        warned := (ofComments settings front).warnings ++
          (ofComments settings back).warnings } := by
  rw [tally_ofComments, List.map_append, faulty_append, List.length_append,
    warningsOn_append]
  simp only [results_ofComments, failures_ofComments, warnings_ofComments]

end Report

/-! ### Tallies -/

namespace Tally

private theorem add_eq (tally : Tally) (settings : Settings) (comment : Text) :
    tally.add settings comment =
      { results := tally.results ++ [settings.result? comment]
        failures := tally.failures + (faulty settings.style [comment]).length
        warned := tally.warned ++ warningsOn settings.style [comment] } := by
  rw [warningsOn_cons, faulty_cons]
  unfold add
  cases converted : convert settings.style comment with
  | ok markdown =>
      have sound := Text.fault?_eq_none_iff.mpr ⟨markdown, converted⟩
      rw [Settings.result?_of_ok converted, sound]
      simp [faulty, warningsOn]
  | error fault =>
      have broken := Text.fault?_eq_some_iff.mpr converted
      rw [Settings.result?_of_error converted, broken]
      simp [faulty, warningsOn]

private theorem takeAll_of_ok {fallbackName styleName : Text}
    {settings : Settings}
    (named : Settings.ofNames fallbackName styleName = .ok settings)
    (tally : Tally) (comments : List Text) :
    tally.takeAll fallbackName styleName comments =
      (.ok (),
        { results := tally.results ++ comments.map settings.result?
          failures := tally.failures + (faulty settings.style comments).length
          warned := tally.warned ++ warningsOn settings.style comments }) := by
  induction comments generalizing tally with
  | nil => simp [takeAll, faulty, warningsOn]
  | cons comment comments ih =>
      have taken : tally.take fallbackName styleName comment =
          (.ok (), tally.add settings comment) := by
        unfold take
        rw [named]
      have counted := faulty_append settings.style [comment] comments
      have warned := warningsOn_append settings.style [comment] comments
      rw [List.singleton_append] at counted warned
      rw [takeAll, taken, counted, warned, List.length_append, List.map_cons]
      simp only [ih, add_eq, List.append_assoc, List.singleton_append,
        Nat.add_assoc]

private theorem takeAll_of_error {fallbackName styleName : Text}
    {fault : SettingFault}
    (unknown : Settings.ofNames fallbackName styleName = .error fault)
    (tally : Tally) (comment : Text) (comments : List Text) :
    tally.takeAll fallbackName styleName (comment :: comments) =
      (.error fault, tally) := by
  have stopped : tally.take fallbackName styleName comment =
      (.error fault, tally) := by
    unfold take
    rw [unknown]
  rw [takeAll, stopped]

end Tally

namespace Report

theorem ofCommentsNamed_cons (fallbackName styleName comment : Text)
    (comments : List Text) :
    ofCommentsNamed fallbackName styleName (comment :: comments) =
      (Settings.ofNames fallbackName styleName).map fun settings =>
        ofComments settings (comment :: comments) :=
  rfl

private theorem ofCommentsNamed_of_ok {fallbackName styleName : Text}
    {settings : Settings}
    (named : Settings.ofNames fallbackName styleName = .ok settings)
    (comments : List Text) :
    ∃ report : Report,
      ofCommentsNamed fallbackName styleName comments = .ok report ∧
        report.tally = (ofComments settings comments).tally := by
  cases comments with
  | nil => exact ⟨⟨.drop, []⟩, rfl, rfl⟩
  | cons comment comments =>
      refine ⟨ofComments settings (comment :: comments), ?_, rfl⟩
      rw [ofCommentsNamed_cons, named]
      rfl

/-- Taking the comments one by one ends as the report says. -/
theorem takeAll_eq_ofCommentsNamed (fallbackName styleName : Text)
    (comments : List Text) :
    Tally.takeAll fallbackName styleName {} comments =
      match ofCommentsNamed fallbackName styleName comments with
      | .ok report => (.ok (), report.tally)
      | .error fault => (.error fault, {}) := by
  cases named : Settings.ofNames fallbackName styleName with
  | ok settings =>
      obtain ⟨report, reported, same⟩ := ofCommentsNamed_of_ok named comments
      rw [reported, Tally.takeAll_of_ok named]
      simp only [same, tally_ofComments, List.nil_append, Nat.zero_add]
  | error fault =>
      cases comments with
      | nil => rfl
      | cons comment comments =>
          rw [ofCommentsNamed_cons, named, Tally.takeAll_of_error named]
          rfl

theorem ofCommentsNamed_eq_error_iff {fallbackName styleName : Text}
    {comments : List Text} {fault : SettingFault} :
    ofCommentsNamed fallbackName styleName comments = .error fault ↔
      comments ≠ [] ∧
        Settings.ofNames fallbackName styleName = .error fault := by
  cases comments with
  | nil => simp [ofCommentsNamed]
  | cons comment comments =>
      rw [ofCommentsNamed_cons]
      cases Settings.ofNames fallbackName styleName <;> simp [Except.map]

private theorem pointwise_of_tally_eq {report : Report} {settings : Settings}
    {comments : List Text}
    (same : report.tally = (ofComments settings comments).tally) :
    report.Pointwise settings comments := by
  rw [tally_ofComments] at same
  obtain ⟨results, failures, warnings⟩ := Tally.mk.inj same
  have length_results : report.results.length = comments.length := by
    rw [results, List.length_map]
  refine
    { total := ?_
      length_results := length_results
      result := fun index => by rw [results, List.getElem?_map]
      result_none := ?_
      result_kept := ?_
      failures := ?_
      warnings := warnings }
  · rw [← length_results]
    exact (List.length_map _).symm
  · intro index comment found
    rw [results, List.getElem?_map, found, Option.map_some, Option.some_inj]
    cases converted : convert settings.style comment with
    | ok markdown =>
        rw [Settings.result?_of_ok converted]
        simp
    | error fault =>
        rw [Settings.result?_of_error converted]
        cases settings.fallback <;> simp
  · intro index comment fault found failed keeps
    rw [results, List.getElem?_map, found, Option.map_some,
      Settings.result?_of_error failed, keeps]
  · intro style
    rw [failures, length_faulty]
    congr 1
    funext comment
    rw [Text.fault?_eq settings.style style]

end Report

/-- A report says of each comment what becomes of that comment alone, so the
report on two batches in a row is that on the one behind that on the other.
Names that stand for no mode are refused, the fallback first, by any batch but
the empty one, and before a warning is printed. -/
theorem comments_reported_pointwise :
    (∀ (settings : Settings) (comments : List Text), ∃ report : Report,
      Report.ofCommentsNamed settings.fallback.name settings.style.name
          comments = .ok report ∧
        report.Pointwise settings comments) ∧
    (∀ (settings : Settings) (front back : List Text),
      ∃ whole first second : Report,
        Report.ofCommentsNamed settings.fallback.name settings.style.name
            (front ++ back) = .ok whole ∧
          Report.ofCommentsNamed settings.fallback.name settings.style.name
            front = .ok first ∧
          Report.ofCommentsNamed settings.fallback.name settings.style.name
            back = .ok second ∧
          whole.results = first.results ++ second.results ∧
          whole.failures = first.failures + second.failures ∧
          whole.warnings = first.warnings ++ second.warnings) ∧
    ∀ (fallbackName styleName : Text) (comments : List Text),
      ((∃ fault : SettingFault,
          Report.ofCommentsNamed fallbackName styleName comments =
            .error fault) ↔
        comments ≠ [] ∧
          (fallbackName ∉ FallbackMode.all.map FallbackMode.name ∨
            styleName ∉ ReferenceStyle.all.map ReferenceStyle.name)) ∧
      (∀ fault : SettingFault,
        Report.ofCommentsNamed fallbackName styleName comments =
            .error fault →
          fault =
            if fallbackName ∈ FallbackMode.all.map FallbackMode.name then
              .unknownStyle styleName
            else .unknownFallback fallbackName) ∧
      Tally.takeAll fallbackName styleName {} comments =
        match Report.ofCommentsNamed fallbackName styleName comments with
        | .ok report =>
            (.ok (), ⟨report.results, report.failures, report.warnings⟩)
        | .error fault => (.error fault, {}) := by
  refine ⟨?_, ?_, ?_⟩
  · intro settings comments
    obtain ⟨report, reported, same⟩ :=
      Report.ofCommentsNamed_of_ok settings.ofNames_name comments
    exact ⟨report, reported, Report.pointwise_of_tally_eq same⟩
  · intro settings front back
    have named := settings.ofNames_name
    obtain ⟨whole, reported, all⟩ :=
      Report.ofCommentsNamed_of_ok named (front ++ back)
    obtain ⟨first, ahead, before⟩ := Report.ofCommentsNamed_of_ok named front
    obtain ⟨second, behind, after⟩ := Report.ofCommentsNamed_of_ok named back
    rw [Report.tally_ofComments_append] at all
    obtain ⟨results, failures, warnings⟩ := Tally.mk.inj all
    obtain ⟨results₁, failures₁, warnings₁⟩ := Tally.mk.inj before
    obtain ⟨results₂, failures₂, warnings₂⟩ := Tally.mk.inj after
    refine ⟨whole, first, second, reported, ahead, behind, ?_, ?_, ?_⟩
    · rw [results, results₁, results₂]
    · rw [failures, failures₁, failures₂]
    · rw [warnings, warnings₁, warnings₂]
  · intro fallbackName styleName comments
    simp only [Report.ofCommentsNamed_eq_error_iff,
      Settings.ofNames_eq_error_iff]
    refine ⟨?_, ?_, Report.takeAll_eq_ofCommentsNamed _ _ comments⟩
    · constructor
      · rintro ⟨fault, occupied, ⟨unknown, -⟩ | ⟨-, unknown, -⟩⟩
        · exact ⟨occupied, .inl unknown⟩
        · exact ⟨occupied, .inr unknown⟩
      · rintro ⟨occupied, unknown⟩
        by_cases known :
            fallbackName ∈ FallbackMode.all.map FallbackMode.name
        · exact ⟨_, occupied,
            .inr ⟨known, unknown.resolve_left (not_not_intro known), rfl⟩⟩
        · exact ⟨_, occupied, .inl ⟨known, rfl⟩⟩
    · rintro fault ⟨-, ⟨unknown, rfl⟩ | ⟨known, -, rfl⟩⟩
      · rw [if_neg unknown]
      · rw [if_pos known]

/-- The middle comment has a list without an end; it is kept and warned of,
and its neighbours are converted. -/
theorem comments_reported_pointwise_kept :
    ∃ report : Report,
      Report.ofCommentsNamed "keep".toList "code".toList
          ["@c a".toList, "Gain.\n@param[in gain".toList, "@e b".toList] =
            .ok report ∧
        report.results[1]? = some (some "Gain.\n@param[in gain".toList) ∧
        report.results[2]? = some (some "_b_".toList) ∧
        report.failures = 1 := by
  obtain ⟨report, reported, pointwise⟩ := comments_reported_pointwise.1
    ⟨.keep, .code⟩
    ["@c a".toList, "Gain.\n@param[in gain".toList, "@e b".toList]
  refine ⟨report, reported, ?_, ?_, ?_⟩
  · apply pointwise.result_kept 1 _ .closingMissing rfl
    · decide +kernel
    · rfl
  · rw [pointwise.result 2]
    decide +kernel
  · rw [pointwise.failures .code]
    decide +kernel

end DocTag
