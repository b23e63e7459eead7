import DocTag.Proofs.Delivery
import DocTag.Proofs.Encoding
import DocTag.Proofs.Failure
import DocTag.Proofs.Fragments
import DocTag.Proofs.Lines
/-!
A line break at the end of a comment.

Every reader stops at a line break, or passes it as a blank; so a line break
and blanks at the end of a comment break nothing and mend nothing.  If the last
item does not take them in, the line break is copied behind a text that does
not end a line.  A document is closed with a line break anyway, and does not
tell which of the two happened.
-/

namespace DocTag

/-- A line break, and only blanks behind it. -/
def Text.IsLineEnd (tail : Text) : Prop :=
  tail.head? = some '\n' ∧ ∀ character ∈ tail, isBlank character = true

def Item.EndInside (items : List Item) : Prop :=
  ∀ (style : ReferenceStyle) (opened : Finset Section),
    Text.endsInside (written style opened items).flatten = true

def Node.isDirectory : Node → Bool
  | .file _ => false
  | .directory => true

/-- The two file systems differ in nothing but what their files hold. -/
def FileSystem.Alike (first second : FileSystem) : Prop :=
  first.working = second.working ∧
    ∀ place : Place, (first.node? place).map Node.isDirectory =
      (second.node? place).map Node.isDirectory

namespace Text

variable {text tail : Text}

private theorem IsLineEnd.stopsWord (ends : tail.IsLineEnd) :
    tail.StopsWord := by
  intro character first
  rw [ends.1] at first
  cases first
  decide

theorem IsLineEnd.skipBlanks_append (ends : tail.IsLineEnd)
    (nothing : text.skipBlanks = []) : (text ++ tail).skipBlanks = [] := by
  unfold skipBlanks at nothing ⊢
  rw [List.dropWhile_eq_nil_iff] at nothing ⊢
  exact List.forall_mem_append.mpr ⟨nothing, ends.2⟩

end Text

namespace Rule

variable {text tail : Text}

/-- A rule that has found no word up to the end of the text finds none behind
a line break either. -/
private theorem read_append_lineEnd {rule : Rule} {argument : Argument}
    (ends : tail.IsLineEnd)
    (read : rule.read text.skipBlanks = .ok (argument, []))
    (noWord : argument.text = []) :
    rule.read (text ++ tail).skipBlanks = .ok (argument, []) := by
  by_cases nothing : text.skipBlanks = []
  · rw [nothing] at read
    rw [ends.skipBlanks_append nothing]
    exact read
  · rw [Text.skipBlanks_append tail nothing]
    generalize text.skipBlanks = source at read nothing
    cases rule with
    | parameter =>
        rcases Text.readParameter_eq_ok read with
          ⟨named, rfl, -⟩ | ⟨attributes, closed, unnamed, listed, rfl, left⟩
        · exact absurd noWord named
        · have spent : closed.skipBlanks = [] :=
            (Text.behindWord_of_word_eq_nil noWord).symm.trans left.symm
          have unnamedYet : (source ++ tail).word = [] :=
            (Text.word_append source tail (.inr ends.stopsWord)).1.trans
              unnamed
          change (source ++ tail).readParameter = _
          rw [Text.readParameter_of_word_eq_nil unnamedYet,
            Text.readAttributes_append tail listed]
          simp only [Except.map, ends.skipBlanks_append spent, spent]
          rfl
    | returnValue | span | reference | related =>
        injection read with reading
        injection reading with same left
        subst same
        exact absurd
          ((Text.behindWord_of_word_eq_nil noWord).symm.trans left) nothing
    | returned | lead | silent | verbatim =>
        injection read with reading
        injection reading with same left
        exact absurd left nothing

private theorem read_append_lineEnd_error {name : Text} {fault : AttributeFault}
    (ends : tail.IsLineEnd)
    (failed : (ofName name).read text.skipBlanks = .error fault) :
    (ofName name).read (text ++ tail).skipBlanks = .error fault := by
  rw [read_ofName_eq_error_iff, Text.readParameter_skipBlanks_eq_error_iff]
    at failed ⊢
  obtain ⟨isParameter, place⟩ := failed
  refine ⟨isParameter, ?_⟩
  rcases place with ⟨nothing, missing⟩ | ⟨⟨list, opened, unclosed⟩, missing⟩
  · exact .inl ⟨ends.skipBlanks_append nothing, missing⟩
  · refine .inr ⟨⟨list ++ tail, ?_, ?_⟩, missing⟩
    · rw [Text.skipBlanks_append tail (by simp [opened]), opened]
      rfl
    · intro member
      rcases List.mem_append.mp member with inside | inTail
      · exact unclosed inside
      · cases ends.2 ']' inTail

end Rule

namespace Item

variable {text rest tail : Text} {item : Item}

private theorem scan_lineEnd (ends : tail.IsLineEnd) :
    scan tail = .ok [.copied '\n'] := by
  obtain ⟨first, blank⟩ := ends
  cases tail with
  | nil => cases first
  | cons character blanks =>
      cases first
      have nothing : Text.skipBlanks blanks = [] :=
        List.dropWhile_eq_nil_iff.mpr (List.forall_mem_cons.mp blank).2
      rw [scan_newline, nothing, scan_nil]
      rfl

private theorem next?_append_lineEnd (ends : tail.IsLineEnd)
    (found : next? text = some (.ok (item, []))) (opened : ¬ item.IsClosed) :
    next? (text ++ tail) = some (.ok (item, [])) := by
  rcases next?_eq_ok_iff.mp found with
    ⟨character, behind, rfl, plain, rfl, left⟩ |
    ⟨introducer, behind, argument, tagged, rfl, read, rfl⟩
  · have line : character = '\n' := of_not_not opened
    rw [if_pos line] at left
    rw [List.cons_append, next?_copied _ plain, if_pos line,
      ends.skipBlanks_append left.symm]
  · obtain ⟨word, left⟩ := Text.word_append behind tail (.inr ends.stopsWord)
    rw [List.cons_append, next?_tag _ tagged, word, left,
      Rule.read_append_lineEnd ends read (of_not_not opened)]
    rfl

private theorem next?_append_lineEnd_error {fault : AttributeFault}
    (ends : tail.IsLineEnd) (failed : next? text = some (.error fault)) :
    next? (text ++ tail) = some (.error fault) := by
  obtain ⟨introducer, behind, rfl, tagged, read⟩ := next?_eq_error_iff.mp failed
  obtain ⟨word, left⟩ := Text.word_append behind tail (.inr ends.stopsWord)
  refine next?_eq_error_iff.mpr ⟨introducer, behind ++ tail, rfl, tagged, ?_⟩
  rw [word, left]
  exact Rule.read_append_lineEnd_error ends read

private theorem endInside_of_isClosed
    (found : next? text = some (.ok (item, rest)))
    (closed : item.IsClosed) : EndInside [item] := by
  have inside : ∀ style : ReferenceStyle,
      ∃ fragment : Text, item.fragment? style = some fragment ∧
        fragment.endsInside = true := by
    intro style
    rcases next?_eq_ok_iff.mp found with
      ⟨character, behind, rfl, plain, rfl, left⟩ |
      ⟨introducer, behind, argument, tagged, rfl, read, rfl⟩
    · exact ⟨[character], rfl, by
        simpa [Text.endsInside, IsClosed] using closed⟩
    · cases written : fragment? style
          (.tag ⟨introducer, behind.word, argument, tagged⟩) with
      | some fragment =>
          exact ⟨fragment, rfl, (Tag.isFramed_fragment? _ written).ends⟩
      | none =>
          have bare := Rule.isBare_of_fragment?_eq_none written
          rw [Rule.read_of_isBare bare] at read
          cases read
          exact absurd rfl closed
  intro style opened
  obtain ⟨fragment, written, ends⟩ := inside style
  rw [Item.written, written, Option.toList_some, List.flatten_append,
    List.flatten_append]
  simpa [Item.written] using Text.endsInside_append _ ends

/-- A line end behind a text adds a line break to its items, or nothing. -/
theorem scan_append_lineEnd (occupied : text ≠ []) (ends : tail.IsLineEnd) :
    scan (text ++ tail) = scan text ∨
      ∃ items : List Item, EndInside items ∧ scan text = .ok items ∧
        scan (text ++ tail) = .ok (items ++ [.copied '\n']) := by
  induction text using scan.induct with
  | case1 text nothing =>
      exact absurd (next?_eq_none_iff.mp nothing) occupied
  | case2 text fault failed =>
      left
      rw [scan_of_next?_error failed,
        scan_of_next?_error (next?_append_lineEnd_error ends failed)]
  | case3 text item rest found shorter ih =>
      rw [scan_of_next?_ok found]
      by_cases left : rest = []
      · -- The last item takes the line break in, or it is an item of its own.
        subst left
        rw [scan_nil]
        by_cases closed : item.IsClosed
        · have more := next?_append found (.inr ⟨closed, ends.stopsWord⟩)
          refine .inr ⟨[item], endInside_of_isClosed found closed, rfl, ?_⟩
          rw [scan_of_next?_ok more, List.nil_append, scan_lineEnd ends]
          rfl
        · have same := next?_append_lineEnd ends found closed
          rw [scan_of_next?_ok same, scan_nil]
          exact .inl rfl
      · rw [scan_of_next?_ok (next?_append found (.inl left))]
        rcases ih left with same | ⟨items, inside, scanned, longer⟩
        · rw [same]
          exact .inl rfl
        · rw [scanned, longer]
          refine .inr ⟨item :: items, ?_, rfl, rfl⟩
          intro style opened
          rw [written, List.flatten_append]
          exact Text.endsInside_append _ (inside style _)

end Item

theorem convert_append_lineEnd_cases (style : ReferenceStyle) (comment : Text)
    {tail : Text} (ends : tail.IsLineEnd) :
    convert style (comment ++ tail) = convert style comment ∨
      ∃ markdown : Text, markdown.endsInside = true ∧
        convert style comment = .ok markdown ∧
        convert style (comment ++ tail) = .ok (markdown ++ ['\n']) := by
  simp only [convert_eq_map_scan]
  by_cases nothing : comment.skipBlanks = []
  · rw [nothing, ends.skipBlanks_append nothing]
    exact .inl rfl
  · rw [Text.skipBlanks_append tail nothing]
    rcases Item.scan_append_lineEnd nothing ends with
      same | ⟨items, inside, scanned, longer⟩
    · rw [same]
      exact .inl rfl
    · rw [scanned, longer]
      refine .inr ⟨_, inside style ∅, rfl, ?_⟩
      simp only [Except.map, Item.written_append, List.flatten_append]
      rfl

/-! ### Documents of one comment -/

/-- Where comments that fail are dropped, the two comments end in the same
document and the same exit status. -/
def Text.DeliversAs (style : ReferenceStyle) (comment other : Text) : Prop :=
  documentOf ⟨.drop, style⟩ [comment] = documentOf ⟨.drop, style⟩ [other] ∧
    ∀ strict : Bool,
      statusOf strict style [comment] = statusOf strict style [other]

namespace Text

variable {style : ReferenceStyle} {comment tail : Text}

private theorem documentOf_singleton_drop (style : ReferenceStyle)
    (comment : Text) :
    documentOf ⟨.drop, style⟩ [comment] =
      Report.closeLine ((convert style comment).toOption.getD []) := by
  rw [← Report.document_ofComments, Report.document,
    Report.results_ofComments, join_newline]
  cases converted : convert style comment with
  | error fault =>
      have dropped : (⟨.drop, style⟩ : Settings).result? comment = none :=
        Settings.result?_of_error converted
      rw [List.map_singleton, dropped]
      rfl
  | ok markdown =>
      have left : (⟨.drop, style⟩ : Settings).result? comment = some markdown :=
        Settings.result?_of_ok converted
      rw [List.map_singleton, left]
      rfl

private theorem statusOf_singleton (strict : Bool) (style : ReferenceStyle)
    (comment : Text) :
    statusOf strict style [comment] =
      if strict = true ∧ (convert style comment).toOption = none then 1
      else 0 := by
  unfold statusOf faulty fault?
  rw [List.filterMap_cons, List.filterMap_nil]
  cases convert style comment with
  | error fault => simp [Except.toOption]
  | ok markdown => simp [Except.toOption]

private theorem closeLine_append_newline {text : Text}
    (inside : text.endsInside = true) :
    Report.closeLine (text ++ ['\n']) = Report.closeLine text := by
  unfold Report.closeLine
  rw [if_pos (by simp), if_neg]
  simp [ne_nil_of_endsInside inside, getLast?_ne_newline inside]

theorem DeliversAs.trans {first second third : Text}
    (front : DeliversAs style first second)
    (back : DeliversAs style second third) : DeliversAs style first third :=
  ⟨front.1.trans back.1, fun strict => (front.2 strict).trans (back.2 strict)⟩

theorem DeliversAs.symm {first second : Text}
    (same : DeliversAs style first second) : DeliversAs style second first :=
  ⟨same.1.symm, fun strict => (same.2 strict).symm⟩

theorem deliversAs_append_lineEnd (style : ReferenceStyle) (comment : Text)
    (ends : tail.IsLineEnd) : DeliversAs style (comment ++ tail) comment := by
  simp only [DeliversAs, documentOf_singleton_drop, statusOf_singleton]
  rcases convert_append_lineEnd_cases style comment ends with
    same | ⟨markdown, inside, converted, longer⟩
  · rw [same]
    exact ⟨rfl, fun _ => rfl⟩
  · rw [converted, longer]
    refine ⟨closeLine_append_newline inside, fun strict => ?_⟩
    simp [Except.toOption]

private theorem unifyNewlines_return {rest : Text}
    (other : rest.head? ≠ some '\n') :
    unifyNewlines ('\r' :: rest) = '\n' :: unifyNewlines rest := by
  cases rest with
  | nil => rfl
  | cons first rest =>
      rw [unifyNewlines]
      rintro _ ⟨⟩
      exact other rfl

private theorem IsLineEnd.unifyNewlines (ends : tail.IsLineEnd) :
    tail.unifyNewlines.IsLineEnd := by
  obtain ⟨first, blank⟩ := ends
  refine ⟨?_, ?_⟩
  · cases tail with
    | nil => cases first
    | cons character rest =>
        cases first
        rfl
  · clear first
    fun_induction Text.unifyNewlines tail with
    | case1 => exact blank
    | case2 rest ih =>
        exact List.forall_mem_cons.mpr ⟨rfl, ih (List.forall_mem_cons.mp
          (List.forall_mem_cons.mp blank).2).2⟩
    | case3 rest other ih =>
        exact List.forall_mem_cons.mpr
          ⟨rfl, ih (List.forall_mem_cons.mp blank).2⟩
    | case4 character rest pair other ih =>
        obtain ⟨first, others⟩ := List.forall_mem_cons.mp blank
        exact List.forall_mem_cons.mpr ⟨first, ih others⟩

def Closes (longer text : Text) : Prop :=
  ∃ front close : Text, close.IsLineEnd ∧ longer = front ++ close ∧
    (text = front ∨ text = front ++ ['\n'])

private theorem Closes.cons {longer text : Text} (closes : Closes longer text)
    (character : Char) : Closes (character :: longer) (character :: text) := by
  obtain ⟨front, close, ends, rfl, same⟩ := closes
  exact ⟨character :: front, close, ends, rfl,
    same.imp (congrArg (character :: ·)) (congrArg (character :: ·))⟩

/-- A carriage return at the end of a text is one line break with the line feed
behind it; otherwise a line end is read apart from the text. -/
private theorem closes_unifyNewlines (text : Text) (ends : tail.IsLineEnd) :
    Closes (text ++ tail).unifyNewlines text.unifyNewlines := by
  fun_induction unifyNewlines text with
  | case1 => exact ⟨[], tail.unifyNewlines, ends.unifyNewlines, rfl, .inl rfl⟩
  | case2 rest ih =>
      rw [List.cons_append, List.cons_append, unifyNewlines]
      exact ih.cons '\n'
  | case3 rest other ih =>
      cases rest with
      | nil =>
          cases tail with
          | nil => cases ends.1
          | cons character blanks =>
              have line : character = '\n' := Option.some.inj ends.1
              subst line
              exact ⟨[], _, ends.unifyNewlines, rfl, .inr rfl⟩
      | cons first rest =>
          have apart : (first :: rest ++ tail).head? ≠ some '\n' := by
            rintro ⟨⟩
            exact other rest rfl
          rw [List.cons_append, unifyNewlines_return apart]
          exact ih.cons '\n'
  | case4 character rest pair other ih =>
      rw [List.cons_append, unifyNewlines]
      · exact ih.cons character
      · exact fun _ isReturn _ => other isReturn
      · exact other

end Text

/-- However a text and the same text with a line end are read from their bytes,
they end in the same document. -/
theorem Text.deliversAs_unifyNewlines (style : ReferenceStyle) (text : Text)
    {tail : Text} (ends : tail.IsLineEnd) :
    DeliversAs style (text ++ tail).unifyNewlines text.unifyNewlines := by
  obtain ⟨front, close, isEnd, longer, shorter⟩ := closes_unifyNewlines text ends
  have added := deliversAs_append_lineEnd style front isEnd
  rw [longer]
  rcases shorter with same | closed
  · rw [same]
    exact added
  · have newline : Text.IsLineEnd ['\n'] :=
      ⟨rfl, List.forall_mem_singleton.mpr rfl⟩
    rw [closed]
    exact added.trans (deliversAs_append_lineEnd style front newline).symm

/-! ### File systems that differ in what files hold -/

namespace FileSystem

private theorem walk_cons (system : FileSystem) (place : Place)
    (component : Text) (rest : List Text) :
    system.walk place (component :: rest) =
      match (system.node? place).map Node.isDirectory with
      | none => .error .missing
      | some false => .error .notDirectory
      | some true =>
          if nameLimit < byteLength component then .error .nameTooLong
          else system.walk
            (if component = ['.', '.'] then place.tail else component :: place)
            rest := by
  rw [walk]
  cases system.node? place with
  | none => rfl
  | some node => cases node <;> rfl

variable {first second : FileSystem}

theorem Alike.walk (alike : first.Alike second) (place : Place)
    (components : List Text) :
    first.walk place components = second.walk place components := by
  induction components generalizing place with
  | nil => rfl
  | cons component rest ih =>
      rw [walk_cons, walk_cons, alike.2 place]
      simp only [ih]

theorem Alike.resolve (alike : first.Alike second) (path : Path) :
    first.resolve path = second.resolve path := by
  unfold FileSystem.resolve
  rw [alike.1]
  simp only [alike.walk]

private theorem Alike.directory_iff (alike : first.Alike second)
    (place : Place) :
    first.node? place = some .directory ↔
      second.node? place = some .directory := by
  have isDirectory (node? : Option Node) :
      node? = some .directory ↔ node?.map Node.isDirectory = some true := by
    cases node? with
    | none => simp
    | some node => cases node <;> simp [Node.isDirectory]
  rw [isDirectory, isDirectory, alike.2 place]

theorem Alike.write_eq_error_iff (alike : first.Alike second) {path : Path}
    {content other : Bytes} {fault : AccessFault} :
    first.write path content = .error fault ↔
      second.write path other = .error fault := by
  simp only [FileSystem.write_eq_error_iff, alike.resolve, alike.directory_iff]

end FileSystem

/-- The job ends with the same status in both surroundings, prints the same
document, and leaves the same in the file that it was to write. -/
def Job.EndsAlike (job : Job) (here there : Surroundings) : Prop :=
  (job.run here).status = (job.run there).status ∧
    (job.run here).standardOutput = (job.run there).standardOutput ∧
    ∀ path : Path, job.destination = .file path →
      (job.run here).files.read path = (job.run there).files.read path

theorem Job.endsAlike_of_deliversAs {job : Job} {here there : Surroundings}
    {style : ReferenceStyle} {comment other : Text}
    (first : job.Reads here [comment]) (second : job.Reads there [other])
    (named : Settings.ofNames job.fallbackName job.styleName =
      .ok ⟨.drop, style⟩)
    (alike : here.files.Alike there.files)
    (same : Text.DeliversAs style comment other) : job.EndsAlike here there := by
  unfold EndsAlike
  rw [run_of_named first named, run_of_named second named, deliver_ofComments,
    deliver_ofComments, same.1, same.2]
  generalize documentOf ⟨.drop, style⟩ [other] = document
  cases goal : job.destination with
  | standardOutput =>
      refine ⟨rfl, rfl, ?_⟩
      rintro path ⟨⟩
  | nowhere =>
      refine ⟨rfl, rfl, ?_⟩
      rintro path ⟨⟩
  | file path =>
      simp only [Destination.place]
      cases written : here.files.write path (Utf8.encode document) with
      | error fault =>
          have refused : there.files.write path (Utf8.encode document) =
              .error fault := alike.write_eq_error_iff.mp written
          simp only [refused]
          refine ⟨trivial, trivial, ?_⟩
          rintro _ ⟨⟩
          rw [FileSystem.read_of_write_eq_error written,
            FileSystem.read_of_write_eq_error refused]
      | ok after =>
          cases elsewhere : there.files.write path (Utf8.encode document) with
          | error fault =>
              rw [alike.write_eq_error_iff.mpr elsewhere] at written
              cases written
          | ok later =>
              refine ⟨rfl, rfl, ?_⟩
              rintro _ ⟨⟩
              exact (FileSystem.read_of_write written).trans
                (FileSystem.read_of_write elsewhere).symm

private theorem Job.reads_of_sources {job : Job} {surroundings : Surroundings}
    {text : Text} (held : job.sources surroundings = [.ok (Utf8.encode text)]) :
    job.Reads surroundings [text.unifyNewlines] := by
  unfold Reads
  rw [held]
  refine .cons ?_ .nil
  unfold commentOfSource
  simp only [Utf8.decode_encode]

/-- A line break and blanks behind a comment make no conversion fail or
succeed, and what they add is a line break at most: nothing where nothing was
written, or where a line break is at the end already.  So a job that drops what
fails and has one input delivers the same document, and ends with the same
status, whether they are there or not. -/
theorem convert_append_lineEnd {style : ReferenceStyle} {comment tail : Text}
    (ends : tail.IsLineEnd) :
    (∀ fault : AttributeFault,
      convert style (comment ++ tail) = .error fault ↔
        convert style comment = .error fault) ∧
    (∀ markdown : Text, convert style comment = .ok markdown →
      (convert style (comment ++ tail) = .ok markdown ∨
        convert style (comment ++ tail) = .ok (markdown ++ ['\n'])) ∧
      (markdown = [] ∨ markdown.getLast? = some '\n' →
        convert style (comment ++ tail) = .ok markdown)) ∧
    ∀ (job : Job) (here there : Surroundings),
      job.fallbackName = "drop".toList → job.styleName = style.name →
        here.files.Alike there.files →
          (job.Reads here [comment] ∧ job.Reads there [comment ++ tail]) ∨
            (job.sources here = [.ok (Utf8.encode comment)] ∧
              job.sources there = [.ok (Utf8.encode (comment ++ tail))]) →
          job.EndsAlike here there := by
  refine ⟨?_, ?_, ?_⟩
  · intro fault
    rcases convert_append_lineEnd_cases style comment ends with
      same | ⟨markdown, -, converted, longer⟩
    · rw [same]
    · rw [converted, longer]
      simp
  · intro markdown converted
    rcases convert_append_lineEnd_cases style comment ends with
      same | ⟨found, inside, shorter, longer⟩
    · rw [same]
      exact ⟨.inl converted, fun _ => converted⟩
    · rw [converted] at shorter
      cases shorter
      refine ⟨.inr longer, ?_⟩
      rintro (nothing | closed)
      · exact absurd nothing (Text.ne_nil_of_endsInside inside)
      · exact absurd closed (Text.getLast?_ne_newline inside)
  · intro job here there drops styled alike held
    have named : Settings.ofNames job.fallbackName job.styleName =
        .ok ⟨.drop, style⟩ := by
      rw [drops, styled]
      exact Settings.ofNames_name ⟨.drop, style⟩
    rcases held with ⟨first, second⟩ | ⟨first, second⟩
    · exact Job.endsAlike_of_deliversAs first second named alike
        (Text.deliversAs_append_lineEnd style comment ends).symm
    · exact Job.endsAlike_of_deliversAs (Job.reads_of_sources first)
        (Job.reads_of_sources second) named alike
        (Text.deliversAs_unifyNewlines style comment ends).symm

/-- The file is rewritten with a blank line at its end, and the document stays
the same. -/
theorem convert_append_lineEnd_bold :
    let comment : Text := "@b w".toList
    let tail : Text := "\n \n".toList
    let files (content : Bytes) : FileSystem :=
      ⟨[(["in".toList], .file content)], []⟩
    let job : Job := ⟨[⟨.working, ["in".toList]⟩],
      .file ⟨.working, ["out".toList]⟩, "drop".toList, "code".toList, true⟩
    tail.IsLineEnd ∧
      (convert .code (comment ++ tail) = .ok "**w**".toList ∨
        convert .code (comment ++ tail) = .ok "**w**\n".toList) ∧
      job.EndsAlike ⟨files (Utf8.encode comment), []⟩
        ⟨files (Utf8.encode (comment ++ tail)), []⟩ := by
  intro comment tail files job
  have ends : tail.IsLineEnd :=
    ⟨rfl, List.all_eq_true.mp rfl⟩
  have converted : convert .code comment = .ok "**w**".toList := by
    decide +kernel
  have alike (first second : Bytes) : (files first).Alike (files second) := by
    refine ⟨rfl, fun place => ?_⟩
    unfold FileSystem.node?
    simp only [files, List.lookup_cons, List.lookup_nil]
    split
    · rfl
    · split <;> rfl
  obtain ⟨-, added, delivered⟩ := convert_append_lineEnd ends
  exact ⟨ends, (added _ converted).1, delivered job _ _ rfl rfl
    (alike _ _) (.inr ⟨by decide +kernel, by decide +kernel⟩)⟩

end DocTag
