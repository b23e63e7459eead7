import DocTag.Proofs.Conservation
import DocTag.Proofs.Course
import DocTag.Proofs.Encoding
import DocTag.Proofs.Fragments
import DocTag.Proofs.Indentation
/-!
A written document is read back as it was written.

What is read knows one line end only, and no rule writes a carriage return; so
neither does a document, whatever the sources held, and reading it changes no
character of it.  A comment without tags is dedented and closed with a line
feed, which leaves nothing to do when the document is converted in its turn.
-/

namespace DocTag

/-- The text has no carriage return, so its line ends are the same already. -/
def Text.IsUnified (text : Text) : Prop := '\r' ∉ text

instance (text : Text) : Decidable text.IsUnified :=
  inferInstanceAs (Decidable (¬ '\r' ∈ text))

theorem Text.isUnified_append {front text : Text} :
    (front ++ text).IsUnified ↔ front.IsUnified ∧ text.IsUnified := by
  unfold IsUnified
  rw [List.mem_append, not_or]

theorem Text.IsUnified.of_suffix {text rest : Text} (unified : text.IsUnified)
    (ends : rest <:+ text) : rest.IsUnified :=
  fun member => unified (ends.mem member)

namespace Rule

private theorem isUnified_of_read {rule : Rule} {text rest : Text}
    {argument : Argument} (read : rule.read text = .ok (argument, rest))
    (unified : text.IsUnified) :
    argument.text.IsUnified ∧ argument.annotation.IsUnified := by
  have whole := portions_append read
  rw [← whole, Text.isUnified_append] at unified
  rcases portions_of_read read with
    ⟨rfl, -, -⟩ | ⟨rfl, -, word⟩ | ⟨attributes, closed, -, rfl, -, list⟩
  · exact ⟨List.not_mem_nil, List.not_mem_nil⟩
  · rw [word] at unified
    simp only [List.flatMap_singleton, Portion.text] at unified
    exact ⟨unified.1, List.not_mem_nil⟩
  · simp only [list, List.flatMap_cons, List.flatMap_nil, List.append_nil,
      Portion.text, Text.isUnified_append] at unified
    obtain ⟨⟨⟨opened, -⟩, -, name⟩, -⟩ := unified
    have inside : attributes.IsUnified := mt (List.mem_cons_of_mem '[') opened
    refine ⟨name, ?_⟩
    simp only [Argument.annotation, Text.isUnified_append, inside, and_true]
    decide

end Rule

namespace Section

private theorem isUnified_announced (opened : Finset Section)
    (asked? : Option Section) :
    Text.IsUnified (announced opened asked?).flatten := by
  cases asked? with
  | none => exact List.not_mem_nil
  | some asked =>
      by_cases isOpen : asked ∈ opened
      · rw [announced_of_mem isOpen]
        exact List.not_mem_nil
      · rw [announced_of_not_mem isOpen]
        cases asked <;> decide

end Section

namespace Item

private theorem isUnified_fragment? {text rest fragment : Text} {item : Item}
    {style : ReferenceStyle} (found : next? text = some (.ok (item, rest)))
    (unified : text.IsUnified) (written : item.fragment? style = some fragment) :
    fragment.IsUnified := by
  rcases next?_eq_ok_iff.mp found with
    ⟨character, behind, rfl, -, rfl, -⟩ |
    ⟨introducer, behind, argument, tagged, rfl, read, rfl⟩
  · cases written
    intro member
    obtain rfl := List.mem_singleton.mp member
    exact unified List.mem_cons_self
  · have further := unified.of_suffix (List.suffix_cons introducer behind)
    have whole := further
    rw [← Text.word_append_behindWord behind, Text.isUnified_append] at whole
    obtain ⟨named, left⟩ := whole
    obtain ⟨argued, annotated⟩ := Rule.isUnified_of_read read
      (left.of_suffix (Text.skipBlanks_suffix _))
    have introduced : '\r' ≠ introducer := by
      rintro rfl
      cases tagged
    refine (Tag.isFramed_fragment? _ written).made.not_mem rfl ?_
    simp only [Tag.given, List.cons_append, List.mem_cons, List.mem_append,
      introduced, false_or, not_or]
    exact ⟨⟨named, argued⟩, annotated⟩

private theorem isUnified_written {text : Text} {items : List Item}
    (scanned : scan text = .ok items) (style : ReferenceStyle)
    (opened : Finset Section) (unified : text.IsUnified) :
    Text.IsUnified (written style opened items).flatten := by
  revert opened unified
  refine scan_ok_induction scanned ?_ ?_
  · intro opened unified
    exact List.not_mem_nil
  · intro text item rest items found ih opened unified
    obtain ⟨character, behind, ahead, left⟩ := next?_suffix found
    have ends : rest <:+ text := by
      rw [ahead]
      exact left.trans (List.suffix_cons character behind)
    rw [written, List.flatten_append, List.flatten_append,
      Text.isUnified_append, Text.isUnified_append]
    refine ⟨⟨Section.isUnified_announced _ _, ?_⟩, ih _ (unified.of_suffix ends)⟩
    cases fragment : item.fragment? style with
    | none => exact List.not_mem_nil
    | some fragment =>
        rw [Option.toList_some, List.flatten_singleton]
        exact isUnified_fragment? found unified fragment

end Item

theorem isUnified_convert {style : ReferenceStyle} {comment markdown : Text}
    (converted : convert style comment = .ok markdown)
    (unified : comment.IsUnified) : markdown.IsUnified := by
  rw [convert_eq_map_scan] at converted
  cases scanned : Item.scan comment.skipBlanks with
  | error fault => rw [scanned] at converted; cases converted
  | ok items =>
      rw [scanned] at converted
      cases converted
      exact Item.isUnified_written scanned style ∅
        (unified.of_suffix comment.skipBlanks_suffix)

theorem isUnified_result? {settings : Settings} {comment result : Text}
    (unified : comment.IsUnified)
    (left : settings.result? comment = some result) : result.IsUnified := by
  cases converted : convert settings.style comment with
  | ok markdown =>
      rw [Settings.result?_of_ok converted] at left
      cases left
      exact isUnified_convert converted unified
  | error fault =>
      rw [Settings.result?_of_error converted] at left
      cases keeps : settings.fallback with
      | drop =>
          rw [keeps] at left
          cases left
      | keep =>
          rw [keeps] at left
          cases left
          exact unified

private theorem isUnified_stacked {texts : List Text}
    (unified : ∀ text ∈ texts, text.IsUnified) :
    (stacked texts).IsUnified := by
  fun_induction stacked texts with
  | case1 => exact List.not_mem_nil
  | case2 text => exact unified text List.mem_cons_self
  | case3 text next rest ih =>
      obtain ⟨first, others⟩ := List.forall_mem_cons.mp unified
      rw [← List.singleton_append, Text.isUnified_append,
        Text.isUnified_append]
      exact ⟨first, by decide, ih others⟩

theorem isUnified_documentOf {settings : Settings} {comments : List Text}
    (unified : ∀ comment ∈ comments, comment.IsUnified) :
    (documentOf settings comments).IsUnified := by
  have left : (stacked (survivors settings comments)).IsUnified := by
    apply isUnified_stacked
    intro text member
    obtain ⟨comment, present, result⟩ := List.mem_filterMap.mp member
    exact isUnified_result? (unified comment present) result
  unfold documentOf
  simp only
  split
  · exact left
  · rw [Text.isUnified_append]
    exact ⟨left, by decide⟩

private theorem isUnified_of_commentOfSource {source : Except AccessFault Bytes}
    {comment : Text} (read : commentOfSource source = .ok comment) :
    comment.IsUnified := by
  cases source with
  | error refusal => cases read
  | ok bytes =>
      unfold commentOfSource at read
      simp only at read
      split at read
      · cases read
      · cases read
        exact Text.return_not_mem_unifyNewlines _

theorem commentOfSource_encode {text : Text} (unified : text.IsUnified) :
    commentOfSource (.ok (Utf8.encode text)) = .ok text := by
  unfold commentOfSource
  simp only [Utf8.decode_encode, Text.unifyNewlines_eq_self unified]

theorem Job.Reads.isUnified {job : Job} {surroundings : Surroundings}
    {comments : List Text} (read : job.Reads surroundings comments) :
    ∀ comment ∈ comments, comment.IsUnified := by
  unfold Reads at read
  generalize job.sources surroundings = sources at read
  induction read with
  | nil =>
      intro comment member
      cases member
  | cons found read ih =>
      exact List.forall_mem_cons.mpr ⟨isUnified_of_commentOfSource found, ih⟩

/-! ### Comments without tags -/

namespace Text

def IsTagless (text : Text) : Prop :=
  ∀ character ∈ text, isIntroducer character = false

private theorem outdent_sublist (text : Text) : text.outdent.Sublist text := by
  fun_induction outdent text with
  | case1 => exact List.Sublist.refl []
  | case2 behind shorter ih =>
      exact (ih.trans (skipBlanks_suffix behind).sublist).cons_cons '\n'
  | case3 character behind other ih => exact ih.cons_cons character

theorem outdent_outdent (text : Text) : text.outdent.outdent = text.outdent := by
  fun_induction outdent text with
  | case1 => exact outdent_nil
  | case2 behind shorter ih =>
      rw [outdent_newline, skipBlanks_outdent, skipBlanks_skipBlanks, ih]
  | case3 character behind other ih => rw [outdent_cons _ other, ih]

private theorem closeLine_cons (character : Char) {text : Text}
    (more : text ≠ []) :
    Report.closeLine (character :: text) =
      character :: Report.closeLine text := by
  obtain ⟨next, rest, rfl⟩ := List.exists_cons_of_ne_nil more
  unfold Report.closeLine
  simp only [List.isEmpty_cons, List.getLast?_cons_cons, Bool.false_or]
  split <;> rfl

private theorem outdent_eq_nil_iff {text : Text} :
    text.outdent = [] ↔ text = [] := by
  fun_cases outdent text <;> simp

/-- A line feed behind a text closes its last line, unless it is closed. -/
private theorem outdent_append_newline {text : Text} (written : text ≠ []) :
    outdent (text ++ ['\n']) = Report.closeLine text.outdent := by
  fun_induction outdent text with
  | case1 => exact absurd rfl written
  | case2 behind shorter ih =>
      rw [List.cons_append, outdent_newline]
      by_cases blank : skipBlanks behind = []
      · have blankYet : skipBlanks (behind ++ ['\n']) = [] := by
          rw [skipBlanks, List.dropWhile_append, ← skipBlanks, blank]
          rfl
        rw [blankYet, blank, outdent_nil]
        rfl
      · rw [skipBlanks_append _ blank, ih blank,
          closeLine_cons _ (mt outdent_eq_nil_iff.mp blank)]
  | case3 character behind other ih =>
      rw [List.cons_append, outdent_cons _ other]
      by_cases nothing : behind = []
      · rw [nothing, List.nil_append, outdent_newline, skipBlanks,
          List.dropWhile_nil, outdent_nil]
        simp [Report.closeLine, other]
      · rw [ih nothing, closeLine_cons _ (mt outdent_eq_nil_iff.mp nothing)]

theorem closeLine_closeLine (text : Text) :
    Report.closeLine (Report.closeLine text) = Report.closeLine text := by
  unfold Report.closeLine
  split
  · rfl
  · simp

private theorem dedented_closeLine (text : Text) :
    (Report.closeLine text.dedented).dedented =
      Report.closeLine text.dedented := by
  have fixed : text.dedented.outdent = text.dedented := outdent_outdent _
  have visible := text.skipBlanks_dedented
  unfold Report.closeLine
  split
  · rw [dedented, visible, fixed]
  · next openEnd =>
      have written : text.dedented ≠ [] := by
        rintro empty
        rw [empty] at openEnd
        exact openEnd rfl
      have further : text.dedented.skipBlanks ≠ [] := by
        rw [visible]
        exact written
      rw [dedented, skipBlanks_append _ further, visible,
        outdent_append_newline written, fixed, Report.closeLine,
        if_neg openEnd]

end Text

namespace Item

private theorem written_of_isTagless {text : Text} {items : List Item}
    (scanned : scan text = .ok items) (tagless : text.IsTagless)
    (style : ReferenceStyle) : (written style ∅ items).flatten = text.outdent := by
  revert tagless
  refine scan_ok_induction scanned ?_ ?_
  · intro tagless
    exact Text.outdent_nil.symm
  · intro text item rest items found ih tagless
    rcases next?_eq_ok_iff.mp found with
      ⟨character, behind, rfl, -, rfl, left⟩ |
      ⟨introducer, behind, argument, tagged, rfl, -, -⟩
    · have further : rest.IsTagless := by
        obtain ⟨first, after, split, ends⟩ := next?_suffix found
        cases split
        exact fun other member =>
          tagless other (List.mem_cons_of_mem character (ends.mem member))
      have flat : IsFlat (.copied character) := trivial
      rw [flatten_written_cons flat, ih further, left]
      by_cases line : character = '\n'
      · subst line
        rw [if_pos rfl, Text.outdent_newline]
        rfl
      · rw [if_neg line, Text.outdent_cons behind line]
        rfl
    · rw [tagless introducer List.mem_cons_self] at tagged
      cases tagged

end Item

theorem convert_of_isTagless {comment : Text} (tagless : comment.IsTagless)
    (style : ReferenceStyle) : convert style comment = .ok comment.dedented := by
  have further : comment.skipBlanks.IsTagless := fun character member =>
    tagless character (comment.skipBlanks_suffix.mem member)
  obtain ⟨items, scanned, -⟩ := Item.scan_of_plain further
  rw [convert_eq_map_scan, scanned]
  exact congrArg Except.ok (Item.written_of_isTagless scanned further style)

private theorem documentOf_of_isTagless {comment : Text}
    (tagless : comment.IsTagless) (settings : Settings) :
    documentOf settings [comment] = Report.closeLine comment.dedented := by
  have left := Settings.result?_of_ok (convert_of_isTagless tagless settings.style)
  unfold documentOf survivors Report.closeLine
  simp [left, stacked]

private theorem isTagless_documentOf {comment : Text}
    (tagless : comment.IsTagless) (settings : Settings) :
    (documentOf settings [comment]).IsTagless := by
  have kept : comment.dedented.IsTagless := fun character member =>
    tagless character (comment.skipBlanks_suffix.mem
      ((Text.outdent_sublist _).mem member))
  rw [documentOf_of_isTagless tagless]
  unfold Report.closeLine
  split
  · exact kept
  · exact List.forall_mem_append.mpr
      ⟨kept, List.forall_mem_singleton.mpr rfl⟩

/-- The document of a comment without tags is the document of itself. -/
theorem documentOf_documentOf {comment : Text} (tagless : comment.IsTagless)
    (settings other : Settings) :
    documentOf other [documentOf settings [comment]] =
      documentOf settings [comment] := by
  rw [documentOf_of_isTagless (isTagless_documentOf tagless settings) other,
    documentOf_of_isTagless tagless settings, Text.dedented_closeLine,
    Text.closeLine_closeLine]

private theorem statusOf_of_isTagless {comment : Text}
    (tagless : comment.IsTagless) (strict : Bool) (style : ReferenceStyle) :
    statusOf strict style [comment] = 0 := by
  have sound : comment.fault? style = none :=
    Text.fault?_eq_none_iff.mpr ⟨_, convert_of_isTagless tagless style⟩
  unfold statusOf
  apply if_neg
  simp [faulty, sound]

/-! ### Jobs on written files -/

private theorem FileSystem.exists_write_of_read {system : FileSystem}
    {path : Path}
    {content : Bytes} (read : system.read path = .ok content) (other : Bytes) :
    ∃ after : FileSystem, system.write path other = .ok after := by
  obtain ⟨named, place, resolved, held⟩ := read_eq_ok_iff.mp read
  refine ⟨_, write_eq_ok_iff.mpr ⟨named, place, resolved, ?_, rfl⟩⟩
  rw [held]
  exact fun same => by cases same

namespace Job

variable {job : Job} {surroundings : Surroundings}

private theorem report_of_named {comments : List Text} {settings : Settings}
    (read : job.Reads surroundings comments)
    (named : Settings.ofNames job.fallbackName job.styleName = .ok settings) :
    job.report (job.sources surroundings) =
      .ok (Report.ofComments settings comments) := by
  obtain ⟨comment, rest, rfl⟩ := List.exists_cons_of_ne_nil read.ne_nil
  unfold report
  rw [mapM_commentOfSource_eq_ok_iff.mpr read]
  simp only [bind, Except.bind, Report.ofCommentsNamed_cons, named]
  rfl

theorem Reads.unique {comments others : List Text}
    (read : job.Reads surroundings comments)
    (again : job.Reads surroundings others) : comments = others := by
  unfold Reads at read again
  rw [← mapM_commentOfSource_eq_ok_iff] at read again
  rw [read] at again
  exact Except.ok.inj again

private theorem reads_of_input {path : Path} (onFile : job.inputs = [path])
    {document : Text} (unified : document.IsUnified)
    (held : surroundings.files.read path = .ok (Utf8.encode document)) :
    job.Reads surroundings [document] := by
  unfold Reads sources
  rw [onFile]
  refine .cons ?_ .nil
  rw [held]
  exact commentOfSource_encode unified

private theorem run_on_document {path other : Path} {comment : Text}
    {settings modes : Settings} (unified : comment.IsUnified)
    (tagless : comment.IsTagless)
    (held : surroundings.files.read path =
      .ok (Utf8.encode (documentOf settings [comment])))
    (onFile : job.inputs = [path]) (toFile : job.destination = .file other)
    (named : Settings.ofNames job.fallbackName job.styleName = .ok modes)
    (accepts : job.destination.Accepts surroundings.files) :
    (job.run surroundings).status = .ok 0 ∧
      (job.run surroundings).files.read other =
        .ok (Utf8.encode (documentOf settings [comment])) := by
  have read := reads_of_input onFile
    (isUnified_documentOf (List.forall_mem_singleton.mpr unified)) held
  obtain ⟨received, status, -⟩ := received_of_accepts read named accepts
  rw [documentOf_documentOf tagless, toFile] at received
  refine ⟨?_, received.2.1⟩
  rw [status, statusOf_of_isTagless (isTagless_documentOf tagless settings)]

end Job

/-- A document that was written is read back as it is: nothing in it changes on
the way, whatever the sources held.  What was written for a single comment
without tags is written again, byte by byte, when its file is converted. -/
theorem written_document_reads_back {job : Job} {surroundings : Surroundings}
    {path : Path} {status : Nat} (toFile : job.destination = .file path)
    (returned : (job.run surroundings).status = .ok status) :
    ∃ report : Report,
      job.report (job.sources surroundings) = .ok report ∧
        (job.run surroundings).files.read path =
          .ok (Utf8.encode report.document) ∧
        '\r' ∉ report.document ∧
        commentOfSource ((job.run surroundings).files.read path) =
          .ok report.document ∧
        ∀ comment : Text, job.Reads surroundings [comment] →
          (∀ character ∈ comment, isIntroducer character = false) →
            ∀ (again : Job) (standardInput : Bytes),
              let written : Surroundings :=
                ⟨(job.run surroundings).files, standardInput⟩
              (again = { job with inputs := [path] } →
                  (again.run written).status = .ok 0 ∧
                    (again.run written).files.read path =
                      .ok (Utf8.encode report.document)) ∧
                ∀ (modes : Settings) (other : Path),
                  again.inputs = [path] → again.destination = .file other →
                    Settings.ofNames again.fallbackName again.styleName =
                        .ok modes →
                      again.destination.Accepts written.files →
                        (again.run written).status = .ok 0 ∧
                          (again.run written).files.read other =
                            .ok (Utf8.encode report.document) := by
  obtain ⟨comments, settings, read, named, received⟩ :=
    Job.received_of_status returned
  rw [toFile] at received
  have held := received.2.1
  have unified : (documentOf settings comments).IsUnified :=
    isUnified_documentOf read.isUnified
  refine ⟨_, Job.report_of_named read named, ?_⟩
  rw [Report.document_ofComments]
  refine ⟨held, unified, ?_, ?_⟩
  · rw [held]
    exact commentOfSource_encode unified
  · intro comment single tagless again standardInput written
    obtain rfl := Job.Reads.unique read single
    have oneLineEnd := single.isUnified comment List.mem_cons_self
    refine ⟨?_, ?_⟩
    · rintro rfl
      have accepts : job.destination.Accepts (job.run surroundings).files := by
        rw [toFile]
        exact FileSystem.exists_write_of_read held []
      exact Job.run_on_document oneLineEnd tagless held rfl toFile named accepts
    · intro modes other onFile elsewhere modesNamed accepts
      exact Job.run_on_document oneLineEnd tagless held onFile elsewhere
        modesNamed accepts

/-- A carriage return is read as a line feed once, and not written again. -/
theorem written_document_reads_back_return :
    let input : Path := ⟨.working, ["note".toList]⟩
    let output : Path := ⟨.working, ["out".toList]⟩
    let files : FileSystem :=
      ⟨[(["note".toList], .file (Utf8.encode "a\r\n  b".toList))], []⟩
    let job : Job := ⟨[input], .file output, "drop".toList, "code".toList, false⟩
    let written := (job.run ⟨files, []⟩).files
    let again : Job := { job with inputs := [output] }
    ∃ document : Text,
      commentOfSource (written.read output) = .ok document ∧
        (again.run ⟨written, []⟩).files.read output =
          .ok (Utf8.encode document) := by
  intro input output files job written again
  have toFile : job.destination = .file output := rfl
  have returned : (job.run ⟨files, []⟩).status = .ok 0 := by decide +kernel
  obtain ⟨report, -, -, -, back, second⟩ :=
    written_document_reads_back toFile returned
  have read : job.Reads ⟨files, []⟩ ["a\n  b".toList] :=
    .cons (by decide +kernel) .nil
  have tagless : ∀ character ∈ "a\n  b".toList,
      isIntroducer character = false := by
    simp [isIntroducer, introducers]
  obtain ⟨-, same⟩ := (second _ read tagless again []).1 rfl
  exact ⟨report.document, back, same⟩

end DocTag
