import DocTag.Proofs.Item
import Mathlib.Data.Finset.Insert
/-!
The run of a conversion: the sessions it passes, one step at each, and the
fragments that it writes.

A run goes on while its steps succeed, and what a conversion returns is read
off the session its run ends in.  Along a run a heading stands in the output
exactly when the tag of an earlier step asked for it.

Writing an item looks through all earlier fragments for a heading.  The same
fragments come out of a writer that looks at none of them and only carries the
set of sections already opened.
-/

namespace DocTag

namespace Session

def started (text : Text) : Session := ⟨(Cursor.ofText text).skipBlanks, {}⟩

theorem ahead_started (text : Text) :
    (started text).cursor.ahead = text.skipBlanks :=
  Cursor.ahead_skipBlanks _

/-- From `start`, one step is taken at each of the sessions `passed`, in this
order.  All but the last succeed; the last has the outcome given and leaves the
session given. -/
inductive Run (style : ReferenceStyle) (start : Session) :
    List Session → Except AttributeFault Unit → Session → Prop
  | start : Run style start [] (.ok ()) start
  | step {passed : List Session} {session next : Session}
      {outcome : Except AttributeFault Unit}
      (run : Run style start passed (.ok ()) session)
      (taken : session.convertNext? style = some (outcome, next)) :
      Run style start (passed ++ [session]) outcome next

def tagName? (session : Session) : Option Text :=
  match session.cursor.ahead with
  | [] => none
  | character :: behind =>
      if isIntroducer character then some (Text.word behind) else none

def Opens (session : Session) (opened : Section) : Prop :=
  ∃ name ∈ opened.tags, session.tagName? = some name

theorem tagName?_of_tag {session : Session} {introducer : Char}
    {behind : Text} (ahead : session.cursor.ahead = introducer :: behind)
    (tagged : isIntroducer introducer = true) :
    session.tagName? = some behind.word := by
  rw [tagName?, ahead]
  exact if_pos tagged

theorem tagName?_of_plain {session : Session} {character : Char}
    {behind : Text} (ahead : session.cursor.ahead = character :: behind)
    (plain : isIntroducer character = false) : session.tagName? = none := by
  rw [tagName?, ahead]
  exact if_neg (by rw [plain]; exact Bool.false_ne_true)

private theorem bind_ofTag?_eq_some_iff {session : Session} {opened : Section} :
    session.tagName?.bind Section.ofTag? = some opened ↔
      session.Opens opened := by
  rw [Option.bind_eq_some_iff]
  constructor
  · rintro ⟨name, read, tag⟩
    exact ⟨name, Section.ofTag?_eq_some_iff.mp tag, read⟩
  · rintro ⟨name, tag, read⟩
    exact ⟨name, read, Section.ofTag?_eq_some_iff.mpr tag⟩

/-- A step opens the section of the tag it dispatches, also when it fails. -/
theorem grows_convertNext? {session next : Session} {style : ReferenceStyle}
    {outcome : Except AttributeFault Unit}
    (taken : session.convertNext? style = some (outcome, next)) :
    session.output.Grows (session.tagName?.bind Section.ofTag?)
      next.output := by
  cases ahead : session.cursor.ahead with
  | nil =>
      rw [convertNext?_eq_none_iff.mpr ahead] at taken
      cases taken
  | cons character behind =>
      cases tagged : isIntroducer character with
      | true =>
          have grown := grows_dispatch
            ⟨session.cursor.forward 1, session.output⟩ style tagged
          rw [convertNext?_of_tag style ahead tagged] at taken
          rw [Option.some_inj.mp taken] at grown
          rw [tagName?_of_tag ahead tagged, Option.bind_some,
            ← Cursor.ahead_forward_one ahead]
          exact grown
      | false =>
          obtain ⟨after, copied, -⟩ := convertNext?_of_plain style ahead tagged
          rw [copied] at taken
          cases taken
          rw [tagName?_of_plain ahead tagged]
          exact .wrote (Section.ofFragment?_singleton character)

theorem next?_of_convertNext? {session next : Session}
    {style : ReferenceStyle} {outcome : Except AttributeFault Unit}
    (taken : session.convertNext? style = some (outcome, next)) :
    (∃ fault : AttributeFault, outcome = .error fault ∧
        Item.next? session.cursor.ahead = some (.error fault)) ∨
      ∃ item : Item, outcome = .ok () ∧
        Item.next? session.cursor.ahead =
          some (.ok (item, next.cursor.ahead)) ∧
        next.output = session.output.write style item := by
  cases found : Item.next? session.cursor.ahead with
  | none =>
      rw [Item.next?_eq_none_iff] at found
      rw [convertNext?_eq_none_iff.mpr found] at taken
      cases taken
  | some reading =>
      cases reading with
      | error fault =>
          obtain ⟨stopped, failed⟩ := convertNext?_of_next?_error style found
          rw [failed] at taken
          cases taken
          exact .inl ⟨fault, rfl, rfl⟩
      | ok reading =>
          obtain ⟨item, rest⟩ := reading
          obtain ⟨after, written, rfl⟩ := convertNext?_of_next?_ok style found
          rw [written] at taken
          cases taken
          exact .inr ⟨item, rfl, rfl, rfl⟩

theorem next?_of_convertNext?_ok {session next : Session}
    {style : ReferenceStyle}
    (taken : session.convertNext? style = some (.ok (), next)) :
    ∃ item : Item,
      Item.next? session.cursor.ahead = some (.ok (item, next.cursor.ahead)) ∧
        next.output = session.output.write style item := by
  rcases next?_of_convertNext? taken with ⟨fault, failed, -⟩ |
    ⟨item, -, found, written⟩
  · cases failed
  · exact ⟨item, found, written⟩

namespace Run

variable {style : ReferenceStyle} {start session : Session}
  {passed : List Session}

@[elab_as_elim]
theorem ok_induction {motive : List Session → Session → Prop}
    (run : Run style start passed (.ok ()) session)
    (atStart : motive [] start)
    (atStep : ∀ (passed : List Session) (session next : Session),
      session.convertNext? style = some (.ok (), next) →
        motive passed session → motive (passed ++ [session]) next) :
    motive passed session := by
  generalize completed : (.ok () : Except AttributeFault Unit) = outcome at run
  induction run with
  | start => exact atStart
  | step run taken ih =>
      subst completed
      exact atStep _ _ _ taken (ih rfl)

/-- Each session that a run has passed ends a run of its own, and its step
succeeds. -/
theorem exists_step_of_mem (run : Run style start passed (.ok ()) session) :
    ∀ earlier ∈ passed, ∃ (before : List Session) (next : Session),
      Run style start before (.ok ()) earlier ∧
        earlier.convertNext? style = some (.ok (), next) := by
  generalize completed : (.ok () : Except AttributeFault Unit) = outcome at run
  induction run with
  | start =>
      intro earlier member
      cases member
  | step run taken ih =>
      subst completed
      intro earlier member
      rcases List.mem_append.mp member with before | last
      · exact ih rfl earlier before
      · obtain rfl := List.mem_singleton.mp last
        exact ⟨_, _, run, taken⟩

private theorem drain_eq (run : Run style start passed (.ok ()) session) :
    start.drain style = session.drain style := by
  refine run.ok_induction rfl ?_
  intro passed session next taken ih
  exact ih.trans (drain_of_convertNext?_ok taken)

theorem cons {first : Session} {outcome : Except AttributeFault Unit}
    (taken : first.convertNext? style = some (.ok (), start))
    (run : Run style start passed outcome session) :
    Run style first (first :: passed) outcome session := by
  induction run with
  | start => exact .step .start taken
  | step run next ih => exact .step ih next

theorem ahead_suffix (run : Run style start passed (.ok ()) session) :
    session.cursor.ahead <:+ start.cursor.ahead := by
  refine run.ok_induction (List.suffix_refl _) ?_
  intro passed session next taken ih
  obtain ⟨item, found, -⟩ := next?_of_convertNext?_ok taken
  obtain ⟨character, behind, ahead, left⟩ := Item.next?_suffix found
  rw [ahead] at ih
  exact left.trans ((List.suffix_cons character behind).trans ih)

/-- Along a run the open sections are those that tags of earlier steps asked
for. -/
theorem mem_sections_iff {text : Text} {outcome : Except AttributeFault Unit}
    (run : Run style (started text) passed outcome session)
    (opened : Section) :
    opened ∈ session.output.sections ↔
      ∃ earlier ∈ passed, earlier.Opens opened := by
  induction run with
  | start =>
      apply iff_of_false
      · intro member
        cases member
      · rintro ⟨earlier, member, -⟩
        cases member
  | step run taken ih =>
      rw [(grows_convertNext? taken).mem_sections_iff opened, ih,
        bind_ofTag?_eq_some_iff]
      simp [or_and_right, exists_or]

end Run

private theorem exists_run (start : Session) (style : ReferenceStyle) :
    (∃ passed session, Run style start passed (.ok ()) session ∧
        session.cursor.ahead = []) ∨
      ∃ passed fault session, Run style start passed (.error fault) session := by
  induction start using drain.induct style with
  | case1 start taken =>
      exact .inl ⟨[], start, .start, convertNext?_eq_none_iff.mp taken⟩
  | case2 start fault stopped taken =>
      exact .inr ⟨[start], fault, stopped, .step .start taken⟩
  | case3 start next taken shorter ih =>
      rcases ih with ⟨passed, session, run, atEnd⟩ |
        ⟨passed, fault, session, run⟩
      · exact .inl ⟨start :: passed, session, run.cons taken, atEnd⟩
      · exact .inr ⟨start :: passed, fault, session, run.cons taken⟩

theorem Run.drain_eq_ok {style : ReferenceStyle} {start session : Session}
    {passed : List Session} (run : Run style start passed (.ok ()) session)
    (atEnd : session.cursor.ahead = []) :
    start.drain style = .ok session.output :=
  run.drain_eq.trans
    (drain_of_convertNext?_eq_none (convertNext?_eq_none_iff.mpr atEnd))

theorem Run.drain_eq_error {style : ReferenceStyle} {start session : Session}
    {passed : List Session} {fault : AttributeFault}
    (run : Run style start passed (.error fault) session) :
    start.drain style = .error fault := by
  cases run with
  | step run taken =>
      exact run.drain_eq.trans (drain_of_convertNext?_error taken)

theorem drain_eq_ok_iff {start : Session} {style : ReferenceStyle}
    {output : Output} :
    start.drain style = .ok output ↔
      ∃ passed session, Run style start passed (.ok ()) session ∧
        session.cursor.ahead = [] ∧ session.output = output := by
  constructor
  · intro drained
    rcases exists_run start style with ⟨passed, session, run, atEnd⟩ |
      ⟨passed, fault, session, run⟩
    · rw [run.drain_eq_ok atEnd] at drained
      cases drained
      exact ⟨passed, session, run, atEnd, rfl⟩
    · rw [run.drain_eq_error] at drained
      cases drained
  · rintro ⟨passed, session, run, atEnd, rfl⟩
    exact run.drain_eq_ok atEnd

theorem drain_eq_error_iff {start : Session} {style : ReferenceStyle}
    {fault : AttributeFault} :
    start.drain style = .error fault ↔
      ∃ passed session, Run style start passed (.error fault) session := by
  constructor
  · intro drained
    rcases exists_run start style with ⟨passed, session, run, atEnd⟩ |
      ⟨passed, lacking, session, run⟩
    · rw [run.drain_eq_ok atEnd] at drained
      cases drained
    · rw [run.drain_eq_error] at drained
      cases drained
      exact ⟨passed, session, run⟩
  · rintro ⟨passed, session, run⟩
    exact run.drain_eq_error

end Session

theorem convert_eq_ok_iff_run {style : ReferenceStyle}
    {comment markdown : Text} :
    convert style comment = .ok markdown ↔
      ∃ (passed : List Session) (final : Session),
        Session.Run style (Session.started comment) passed (.ok ()) final ∧
          final.cursor.ahead = [] ∧ final.output.render = markdown := by
  have drained : convert style comment = .ok markdown ↔
      ∃ output : Output,
        (Session.started comment).drain style = .ok output ∧
          output.render = markdown := by
    change ((Session.started comment).drain style).map Output.render =
      .ok markdown ↔ _
    cases (Session.started comment).drain style <;> simp [Except.map]
  rw [drained]
  constructor
  · rintro ⟨output, ended, rfl⟩
    obtain ⟨passed, final, run, atEnd, rfl⟩ := Session.drain_eq_ok_iff.mp ended
    exact ⟨passed, final, run, atEnd, rfl⟩
  · rintro ⟨passed, final, run, atEnd, rfl⟩
    exact ⟨final.output, run.drain_eq_ok atEnd, rfl⟩

def Section.openedWith (opened : Finset Section) (asked? : Option Section) :
    Finset Section :=
  asked?.elim opened fun asked => insert asked opened

/-- The heading and the blank line of a section that is not yet open. -/
def Section.announced (opened : Finset Section) (asked? : Option Section) :
    List Text :=
  match asked? with
  | none => []
  | some asked =>
      if asked ∈ opened then [] else [asked.heading, Output.headingSeparator]

def Item.written (style : ReferenceStyle) :
    Finset Section → List Item → List Text
  | _, [] => []
  | opened, item :: items =>
      Section.announced opened item.asked? ++ (item.fragment? style).toList ++
        written style (Section.openedWith opened item.asked?) items

def Item.openedBehind (opened : Finset Section) (items : List Item) :
    Finset Section :=
  items.foldl (fun opened item => Section.openedWith opened item.asked?) opened

theorem Section.announced_of_mem {opened : Finset Section} {asked : Section}
    (isOpen : asked ∈ opened) : Section.announced opened (some asked) = [] :=
  if_pos isOpen

theorem Section.announced_of_not_mem {opened : Finset Section}
    {asked : Section} (isNew : asked ∉ opened) :
    Section.announced opened (some asked) =
      [asked.heading, Output.headingSeparator] :=
  if_neg isNew

theorem Item.written_append (style : ReferenceStyle) (opened : Finset Section)
    (front items : List Item) :
    Item.written style opened (front ++ items) =
      Item.written style opened front ++
        Item.written style (Item.openedBehind opened front) items := by
  induction front generalizing opened with
  | nil => rfl
  | cons item front ih =>
      simp only [List.cons_append, Item.written, Item.openedBehind,
        List.foldl_cons, List.append_assoc, ih]

namespace Output

theorem fragments_opening (output : Output) (asked? : Option Section) :
    (output.opening asked?).fragments =
      output.fragments ++
        Section.announced output.sections.toFinset asked? := by
  cases asked? with
  | none => exact (List.append_nil _).symm
  | some asked =>
      change (output.openSection asked).fragments = _
      by_cases isOpen : asked ∈ output.sections
      · rw [openSection_of_mem isOpen,
          Section.announced_of_mem (List.mem_toFinset.mpr isOpen),
          List.append_nil]
      · rw [openSection_of_not_mem isOpen, fragments_emit, fragments_emit,
          Section.announced_of_not_mem (mt List.mem_toFinset.mp isOpen),
          List.append_assoc]
        rfl

theorem fragments_write (output : Output) (style : ReferenceStyle)
    (item : Item) :
    (output.write style item).fragments =
      output.fragments ++
        (Section.announced output.sections.toFinset item.asked? ++
          (item.fragment? style).toList) := by
  rw [← List.append_assoc, ← fragments_opening]
  unfold write
  cases item.fragment? style with
  | none => exact (List.append_nil _).symm
  | some fragment => exact fragments_emit _ fragment

theorem sections_write (output : Output) (style : ReferenceStyle)
    (item : Item) :
    (output.write style item).sections.toFinset =
      Section.openedWith output.sections.toFinset item.asked? := by
  ext opened
  have grown := (output.grows_write style item).mem_sections_iff opened
  rw [List.mem_toFinset, grown]
  cases item.asked? with
  | none => simp [Section.openedWith]
  | some asked =>
      simp [Section.openedWith, or_comm, eq_comm]

/-- Writing where an output stands is writing where its sections are open. -/
theorem fragments_foldl_write (output : Output) (style : ReferenceStyle)
    (items : List Item) :
    (items.foldl (write style) output).fragments =
      output.fragments ++
        Item.written style output.sections.toFinset items := by
  induction items generalizing output with
  | nil => exact (List.append_nil _).symm
  | cons item items ih =>
      rw [List.foldl_cons, ih, fragments_write, sections_write, Item.written,
        List.append_assoc]

theorem sections_foldl_write (output : Output) (style : ReferenceStyle)
    (items : List Item) :
    (items.foldl (write style) output).sections.toFinset =
      Item.openedBehind output.sections.toFinset items := by
  induction items generalizing output with
  | nil => rfl
  | cons item items ih =>
      rw [List.foldl_cons, ih, sections_write]
      rfl

end Output

theorem Session.drain_started (style : ReferenceStyle) (comment : Text) :
    (Session.started comment).drain style =
      (Item.scan comment.skipBlanks).map fun items =>
        items.foldl (Output.write style) {} := by
  rw [Session.drain_eq_map_scan, Session.ahead_started]
  rfl

theorem convert_eq_map_scan (style : ReferenceStyle) (comment : Text) :
    convert style comment =
      (Item.scan comment.skipBlanks).map fun items =>
        (Item.written style ∅ items).flatten := by
  change ((Session.started comment).drain style).map Output.render = _
  rw [Session.drain_started]
  cases Item.scan comment.skipBlanks with
  | error fault => rfl
  | ok items =>
      have fragments := Output.fragments_foldl_write {} style items
      simp only [Except.map, Output.render, fragments]
      rfl

theorem convert_eq_error_iff_scan {style : ReferenceStyle} {comment : Text}
    {fault : AttributeFault} :
    convert style comment = .error fault ↔
      Item.scan comment.skipBlanks = .error fault := by
  rw [convert_eq_map_scan]
  cases Item.scan comment.skipBlanks <;> simp [Except.map]

end DocTag
