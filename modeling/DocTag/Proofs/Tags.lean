import DocTag.Proofs.Lines
/-!
The tags of a comment and the arguments they read.

A run says which tags are dispatched and which arguments are read, session by
session.  Where the scan of the text succeeds, these are the tags among its
items, with their arguments.
-/

namespace DocTag

def Item.tagName? : Item → Option Text
  | .copied _ => none
  | .tag used => some used.name

namespace Session

def Reads (session : Session) (argument : Argument) : Prop :=
  ∃ (introducer : Char) (behind : Text) (after : Cursor),
    session.cursor.ahead = introducer :: behind ∧
      isIntroducer introducer = true ∧
      (session.cursor.forward 1).readWord.2.skipBlanks.readArgument
          (Rule.ofName (session.cursor.forward 1).readWord.1) =
        (.ok argument, after)

private theorem reads_iff {session : Session} {argument : Argument} :
    session.Reads argument ↔
      ∃ (used : Tag) (rest : Text), used.argument = argument ∧
        Item.next? session.cursor.ahead = some (.ok (.tag used, rest)) := by
  constructor
  · rintro ⟨introducer, behind, after, ahead, tagged, reading⟩
    have passed := Cursor.ahead_forward_one ahead
    have read := view_readArgument_behind_tag (session.cursor.forward 1)
    rw [passed] at read
    rw [Cursor.text_readWord, passed] at reading
    rw [reading] at read
    refine ⟨⟨introducer, behind.word, argument, tagged⟩, after.ahead, rfl, ?_⟩
    rw [ahead, Item.next?_tag behind tagged, ← read]
    rfl
  · rintro ⟨used, rest, rfl, found⟩
    rcases Item.next?_eq_ok_iff.mp found with
      ⟨character, behind, -, -, copied, -⟩ |
      ⟨introducer, behind, argument, tagged, ahead, read, same⟩
    · cases copied
    · cases same
      have passed := Cursor.ahead_forward_one ahead
      rw [← passed, ← view_readArgument_behind_tag] at read
      obtain ⟨after, reading, -⟩ := Cursor.eq_of_view_eq_ok read
      exact ⟨introducer, behind, after, ahead, tagged, reading⟩

theorem tagName?_of_next? {session : Session} {item : Item} {rest : Text}
    (found : Item.next? session.cursor.ahead = some (.ok (item, rest))) :
    session.tagName? = item.tagName? := by
  rcases Item.next?_eq_ok_iff.mp found with
    ⟨character, behind, ahead, plain, rfl, -⟩ |
    ⟨introducer, behind, argument, tagged, ahead, -, rfl⟩
  · exact tagName?_of_plain ahead plain
  · exact tagName?_of_tag ahead tagged

end Session

/-- A run of the conversion of the comment reads the argument for a tag. -/
def ReadsArgument (style : ReferenceStyle) (comment : Text)
    (argument : Argument) : Prop :=
  ∃ (passed : List Session) (outcome : Except AttributeFault Unit)
    (session : Session),
    Session.Run style (Session.started comment) passed outcome session ∧
      ∃ earlier ∈ passed, earlier.Reads argument

namespace Session

variable {style : ReferenceStyle} {start session : Session}
  {passed : List Session} {items : List Item}

private theorem exists_run_of_mem_scan (start : Session)
    (style : ReferenceStyle)
    (scanned : Item.scan start.cursor.ahead = .ok items) :
    ∀ item ∈ items, ∃ (passed : List Session) (session next : Session),
      Run style start (passed ++ [session]) (.ok ()) next ∧
        Item.next? session.cursor.ahead =
          some (.ok (item, next.cursor.ahead)) := by
  generalize remaining : start.cursor.ahead = text at scanned
  revert start
  refine Item.scan_ok_induction scanned ?_ ?_
  · intro start atEnd item member
    cases member
  · intro text first rest more found ih start remaining item member
    rw [← remaining] at found
    obtain ⟨after, taken, left⟩ := convertNext?_of_next?_ok style found
    rcases List.mem_cons.mp member with rfl | later
    · refine ⟨[], start, _, .step .start taken, ?_⟩
      rw [found, left]
    · obtain ⟨passed, session, next, run, step⟩ :=
        ih ⟨after, start.output.write style first⟩ left item later
      exact ⟨start :: passed, session, next, run.cons taken, step⟩

private theorem Run.exists_mem_scan
    (run : Run style start passed (.ok ()) session)
    (scanned : Item.scan start.cursor.ahead = .ok items)
    (left : session.cursor.ahead ≠ []) :
    ∃ item ∈ items, ∃ rest : Text,
      Item.next? session.cursor.ahead = some (.ok (item, rest)) := by
  obtain ⟨front, appended⟩ := run.scan_append
  have whole := appended [] (.inr rfl)
  rw [List.append_nil, List.append_nil, scanned] at whole
  cases found : Item.next? session.cursor.ahead with
  | none => exact absurd (Item.next?_eq_none_iff.mp found) left
  | some reading =>
      cases reading with
      | error fault =>
          rw [Item.scan_of_next?_error found] at whole
          cases whole
      | ok reading =>
          obtain ⟨item, rest⟩ := reading
          rw [Item.scan_of_next?_ok found] at whole
          cases further : Item.scan rest with
          | error fault => rw [further] at whole; cases whole
          | ok more =>
              rw [further] at whole
              injection whole with split
              refine ⟨item, ?_, rest, rfl⟩
              rw [split]
              exact List.mem_append_right front List.mem_cons_self

private theorem Run.exists_run_of_mem {outcome : Except AttributeFault Unit}
    (run : Run style start passed outcome session) :
    ∀ earlier ∈ passed, ∃ before : List Session,
      Run style start before (.ok ()) earlier := by
  intro earlier member
  cases run with
  | start => cases member
  | step run taken =>
      rcases List.mem_append.mp member with before | last
      · obtain ⟨before, next, reached, -⟩ := run.exists_step_of_mem earlier before
        exact ⟨before, reached⟩
      · obtain rfl := List.mem_singleton.mp last
        exact ⟨_, run⟩

end Session

section Scanned

variable {style : ReferenceStyle} {comment : Text} {items : List Item}

/-- The arguments that a run reads are those of the tags of the text. -/
theorem readsArgument_iff (scanned : Item.scan comment.skipBlanks = .ok items)
    {argument : Argument} :
    ReadsArgument style comment argument ↔
      ∃ used : Tag, .tag used ∈ items ∧ used.argument = argument := by
  rw [← Session.ahead_started] at scanned
  constructor
  · rintro ⟨passed, outcome, session, run, earlier, member, reads⟩
    obtain ⟨before, reached⟩ := run.exists_run_of_mem earlier member
    obtain ⟨used, rest, same, found⟩ := Session.reads_iff.mp reads
    obtain ⟨item, known, behind, again⟩ := reached.exists_mem_scan scanned
      (by rintro nothing; rw [nothing] at found; cases found)
    rw [found] at again
    cases again
    exact ⟨used, known, same⟩
  · rintro ⟨used, member, same⟩
    obtain ⟨passed, session, next, run, found⟩ :=
      Session.exists_run_of_mem_scan _ style scanned _ member
    exact ⟨_, _, next, run, session, by simp,
      Session.reads_iff.mpr ⟨used, _, same, found⟩⟩

theorem dispatches_iff (scanned : Item.scan comment.skipBlanks = .ok items)
    {opened : Section} :
    Dispatches style comment opened ↔
      ∃ item ∈ items, ∃ name ∈ opened.tags, item.tagName? = some name := by
  rw [← Session.ahead_started] at scanned
  constructor
  · rintro ⟨passed, outcome, session, run, earlier, member, name, tag, read⟩
    obtain ⟨before, reached⟩ := run.exists_run_of_mem earlier member
    obtain ⟨item, known, rest, found⟩ := reached.exists_mem_scan scanned
      (by rintro nothing; rw [Session.tagName?, nothing] at read; cases read)
    rw [Session.tagName?_of_next? found] at read
    exact ⟨item, known, name, tag, read⟩
  · rintro ⟨item, member, name, tag, named⟩
    obtain ⟨passed, session, next, run, found⟩ :=
      Session.exists_run_of_mem_scan _ style scanned _ member
    rw [← Session.tagName?_of_next? found] at named
    exact ⟨_, _, next, run, session, by simp, name, tag, named⟩

end Scanned

end DocTag
