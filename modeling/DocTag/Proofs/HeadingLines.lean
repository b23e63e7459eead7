import DocTag.Proofs.Fragments
/-!
Which headings begin a line of the Markdown.

Nothing puts a heading on a line of its own: it stands where the output stood.
A line break in front of a tag is either copied, and then the heading begins a
line, or it is among the blanks that an earlier tag without an argument has
taken with its name.  In that case the heading begins a line only if what that
tag wrote, or what was written in front of it, ends with a line break.
-/

namespace DocTag

/-- Only blanks stand between the rest of the comment and the line break in
front of it, or the start of the comment. -/
def Text.BeginsLine (comment rest : Text) : Prop :=
  ∃ front indent : Text, comment = front ++ (indent ++ rest) ∧
    (∀ blank ∈ indent, isBlank blank = true) ∧
    (front = [] ∨ front.getLast? = some '\n')

def Output.AtLineStart (output : Output) : Prop :=
  output.render = [] ∨ output.render.getLast? = some '\n'

namespace Session

/-- The next step writes the heading of the section. -/
def Heads (session : Session) (style : ReferenceStyle) (opened : Section) :
    Prop :=
  ∃ (outcome : Except AttributeFault Unit) (next : Session)
    (behind : List Text),
    session.convertNext? style = some (outcome, next) ∧
      next.output.fragments =
        session.output.fragments ++ opened.heading :: behind

def rule? (session : Session) : Option Rule := session.tagName?.map Rule.ofName

def writes (style : ReferenceStyle) (session : Session) : Bool :=
  (session.convertNext? style).any fun taken =>
    taken.2.output ≠ session.output

/-- The next step copies a line break, or dispatches a tag that asks for the
section on what is returned. -/
def breaksLine (session : Session) : Bool :=
  session.rule?.elim (session.cursor.ahead.head? = some '\n') (· = .returned)

def isBare (session : Session) : Bool := session.rule?.any Rule.isBare

end Session

namespace Text

private theorem BeginsLine.of_append {front run rest : Text}
    (begins : BeginsLine (front ++ (run ++ rest)) rest) (oneLine : '\n' ∉ run) :
    (∀ character ∈ run, isBlank character = true) ∧
      BeginsLine (front ++ (run ++ rest)) (run ++ rest) := by
  obtain ⟨lead, indent, split, blank, closed⟩ := begins
  rw [← List.append_assoc, ← List.append_assoc,
    List.append_cancel_right_eq] at split
  rcases List.append_eq_append_iff.mp split with
    ⟨between, rfl, inRun⟩ | ⟨between, rfl, rfl⟩
  · cases between with
    | nil =>
        rw [List.nil_append] at inRun
        subst inRun
        rw [List.append_nil] at closed
        exact ⟨blank, front, [], rfl, by simp, closed⟩
    | cons first between =>
        have last : (front ++ first :: between).getLast? = some '\n' :=
          closed.resolve_left (List.append_ne_nil_of_right_ne_nil _
            (List.cons_ne_nil first between))
        rw [List.getLast?_append_of_ne_nil _ (List.cons_ne_nil _ _)] at last
        rw [inRun] at oneLine
        exact absurd (List.mem_append_left _ (List.mem_of_getLast? last))
          oneLine
  · obtain ⟨spaces, blankRun⟩ := List.forall_mem_append.mp blank
    exact ⟨blankRun, lead, between, List.append_assoc _ _ _, spaces, closed⟩

/-- Behind a word without a visible character there is no blank: the word is
empty, and what it stops at is visible. -/
private theorem eq_bracket_of_behindWord {text : Text}
    (shows : text.StartsVisible)
    (blank : ∀ character ∈ text.word, isBlank character = true) :
    ∀ character ∈ text.behindWord.head?, character = '[' := by
  have noWord : text.word = [] := by
    cases found : text.word with
    | nil => rfl
    | cons first more =>
        have whole := text.word_append_behindWord
        rw [found] at whole blank
        have shown := shows first (by rw [← whole]; rfl)
        rw [blank first List.mem_cons_self] at shown
        cases shown
  intro character first
  have stopped := List.head?_dropWhile_not
    (fun character => !isWordSeparator character) text
  rw [show (text.dropWhile fun character => !isWordSeparator character).head? =
    some character from first] at stopped
  rw [behindWord_of_word_eq_nil noWord] at first
  exact eq_bracket_of_isWordSeparator (by simpa using stopped)
    (shows character first)

end Text

private theorem Rule.exists_word_of_read {rule : Rule} {text rest : Text}
    {argument : Argument} (reads : rule.isBare = false)
    (read : rule.read text.skipBlanks = .ok (argument, rest)) :
    ∃ source : Text, source.StartsVisible ∧ source <:+ text ∧
      rest = source.behindWord := by
  have skipped := text.startsVisible_skipBlanks
  cases rule with
  | parameter =>
      rcases Text.readParameter_eq_ok read with
        ⟨-, -, rfl⟩ | ⟨attributes, closed, -, listed, -, rfl⟩
      · exact ⟨text.skipBlanks, skipped, text.skipBlanks_suffix, rfl⟩
      · exact ⟨closed.skipBlanks, closed.startsVisible_skipBlanks,
          closed.skipBlanks_suffix.trans
            ((Text.readAttributes_suffix listed).trans text.skipBlanks_suffix),
          rfl⟩
  | returnValue | span | reference | related =>
      cases read
      exact ⟨text.skipBlanks, skipped, text.skipBlanks_suffix, rfl⟩
  | returned | lead | silent | verbatim => cases reads

namespace Item

/-- An item behind which a line begins is a line break, or a tag that has taken
the line break with its name; or no tag follows it. -/
private theorem of_beginsLine {comment text rest : Text} {item : Item}
    (found : next? text = some (.ok (item, rest))) (ends : text <:+ comment)
    (visible : Text.BeginsLine comment text → text.StartsVisible)
    (begins : Text.BeginsLine comment rest) :
    item = .copied '\n' ∨ item.isBare = true ∨
      ∀ character ∈ rest.head?, character = '[' := by
  rcases next?_eq_ok_iff.mp found with
    ⟨character, behind, rfl, -, rfl, left⟩ |
    ⟨introducer, behind, argument, tagged, rfl, read, rfl⟩
  · left
    by_cases line : character = '\n'
    · rw [line]
    · rw [if_neg line] at left
      subst left
      obtain ⟨front, rfl⟩ := ends
      have oneLine : '\n' ∉ [character] := by simpa using Ne.symm line
      have behindRun : Text.BeginsLine (front ++ ([character] ++ rest)) rest :=
        begins
      obtain ⟨blank, further⟩ := behindRun.of_append oneLine
      -- The line would begin in front of the copied character as well, and no
      -- blank is copied there.
      have shown := visible further character rfl
      rw [blank character List.mem_cons_self] at shown
      cases shown
  · right
    cases bare : (Rule.ofName behind.word).isBare with
    | true => exact .inl bare
    | false =>
        right
        obtain ⟨source, shows, suffix, rfl⟩ :=
          Rule.exists_word_of_read bare read
        obtain ⟨front, rfl⟩ := suffix.trans (behind.behindWord_suffix.trans
          ((List.suffix_cons introducer behind).trans ends))
        have oneLine : '\n' ∉ source.word := by
          intro member
          cases Text.isWordSeparator_of_mem_word member
        have whole := source.word_append_behindWord
        have behindRun : Text.BeginsLine
            (front ++ (source.word ++ source.behindWord)) source.behindWord := by
          rw [whole]
          exact begins
        obtain ⟨blank, -⟩ := behindRun.of_append oneLine
        exact source.eq_bracket_of_behindWord shows blank

private theorem startsVisible_of_beginsLine {comment text rest : Text}
    {item : Item}
    (found : next? text = some (.ok (item, rest))) (ends : text <:+ comment)
    (visible : Text.BeginsLine comment text → text.StartsVisible)
    (begins : Text.BeginsLine comment rest) : rest.StartsVisible := by
  rcases of_beginsLine found ends visible begins with rfl | bare | bracket
  · rcases next?_eq_ok_iff.mp found with
      ⟨character, behind, -, -, same, left⟩ | ⟨_, _, _, _, _, _, impossible⟩
    · cases same
      rw [left, if_pos rfl]
      exact behind.startsVisible_skipBlanks
    · cases impossible
  · exact startsVisible_of_isBare found bare
  · intro character first
    rw [bracket character first]
    rfl

end Item

namespace Output

private theorem render_write (output : Output) (style : ReferenceStyle)
    (item : Item) :
    (output.write style item).render =
      output.render ++
        (Section.announced output.sections.toFinset item.asked?).flatten ++
          (item.fragment? style).toList.flatten := by
  rw [render, fragments_write, List.flatten_append, List.flatten_append,
    List.append_assoc]
  rfl

private theorem write_of_fragment?_eq_none (output : Output)
    {style : ReferenceStyle}
    {item : Item} (nothing : item.fragment? style = none) :
    output.write style item = output.opening item.asked? := by
  unfold write
  rw [nothing]
  rfl

private theorem not_atLineStart {output : Output} {front text : Text}
    (split : output.render = front ++ text) (ends : text.endsInside = true) :
    ¬ output.AtLineStart := by
  have inside := Text.endsInside_append front ends
  rw [← split] at inside
  rintro (nothing | closed)
  · exact Text.ne_nil_of_endsInside inside nothing
  · exact Text.getLast?_ne_newline inside closed

end Output

namespace Session

variable {style : ReferenceStyle} {session next : Session} {item : Item}
  {rest : Text}

private theorem rule?_of_next?
    (found : Item.next? session.cursor.ahead = some (.ok (item, rest))) :
    session.rule? = item.tagName?.map Rule.ofName :=
  congrArg (Option.map Rule.ofName) (tagName?_of_next? found)

private theorem isBare_of_next?
    (found : Item.next? session.cursor.ahead = some (.ok (item, rest))) :
    session.isBare = item.isBare := by
  unfold isBare
  rw [rule?_of_next? found]
  cases item <;> rfl

theorem writes_eq_true_iff {outcome : Except AttributeFault Unit}
    (taken : session.convertNext? style = some (outcome, next)) :
    session.writes style = true ↔ next.output ≠ session.output := by
  unfold writes
  rw [taken]
  exact decide_eq_true_iff

theorem atLineStart_of_writes
    (taken : session.convertNext? style = some (.ok (), next))
    (writes : session.writes style = true) :
    next.output.AtLineStart ↔ session.breaksLine = true := by
  have changed := (writes_eq_true_iff taken).mp writes
  obtain ⟨item, found, written⟩ := next?_of_convertNext?_ok taken
  have breaks : session.breaksLine = (item.tagName?.map Rule.ofName).elim
      (decide (session.cursor.ahead.head? = some '\n')) (· = .returned) := by
    rw [breaksLine, rule?_of_next? found]
  rw [breaks]
  cases item with
  | copied character =>
      rcases Item.next?_eq_ok_iff.mp found with
        ⟨same, behind, ahead, -, copied, -⟩ | ⟨_, _, _, _, _, _, impossible⟩
      · cases copied
        have render : next.output.render =
            session.output.render ++ [character] := by
          rw [written]
          exact Output.render_emit _ _
        rw [ahead, Output.AtLineStart, render, List.getLast?_concat]
        simp [Item.tagName?]
      · cases impossible
  | tag used =>
      change next.output.AtLineStart ↔
        decide (Rule.ofName used.name = .returned) = true
      rw [decide_eq_true_iff]
      cases emitted : Item.fragment? style (.tag used) with
      | some fragment =>
          have render := Output.render_write session.output style (.tag used)
          rw [← written, emitted, Option.toList_some, List.flatten_singleton]
            at render
          refine iff_of_false
            (Output.not_atLineStart render (used.isFramed_fragment? emitted).ends)
            ?_
          intro rule
          change (Rule.ofName used.name).fragment? _ style _ = _ at emitted
          rw [rule] at emitted
          cases emitted
      | none =>
          have opening := written.trans
            (session.output.write_of_fragment?_eq_none emitted)
          change next.output =
            session.output.opening (Rule.ofName used.name).opens? at opening
          rcases Rule.eq_of_fragment?_eq_none emitted with rule | rule
          · rw [rule] at opening
            refine iff_of_true ?_ rule
            have isNew : Section.returns ∉ session.output.sections := by
              intro isOpen
              exact changed (opening.trans (Output.openSection_of_mem isOpen))
            have separated :=
              opening.trans (Output.openSection_of_not_mem isNew)
            right
            rw [separated, Output.render_emit,
              List.getLast?_append_of_ne_nil _ (by decide)]
            rfl
          · rw [rule] at opening
            exact absurd opening changed

namespace Run

variable {comment : Text} {passed : List Session}

/-- The output of a run begins a line if nothing was written, or if the last
step that wrote something broke the line. -/
theorem atLineStart_iff
    (run : Run style (started comment) passed (.ok ()) session) :
    session.output.AtLineStart ↔
      ∀ last ∈ (passed.filter (writes style)).getLast?,
        last.breaksLine = true := by
  refine run.ok_induction ?_ ?_
  · exact iff_of_true (.inl rfl) fun last nothing => by cases nothing
  · intro passed session next taken ih
    rw [List.filter_append]
    cases wrote : session.writes style with
    | true =>
        rw [atLineStart_of_writes taken wrote, List.filter_cons_of_pos wrote,
          List.filter_nil, List.getLast?_concat]
        simp
    | false =>
        have same : next.output = session.output := by
          by_contra changed
          rw [(writes_eq_true_iff taken).mpr changed] at wrote
          cases wrote
        rw [List.filter_cons_of_neg (by simp [wrote]), List.filter_nil,
          List.append_nil, same]
        exact ih

theorem beginsLine
    (run : Run style (started comment) passed (.ok ()) session) :
    session.cursor.ahead <:+ comment ∧
      (Text.BeginsLine comment session.cursor.ahead →
        session.cursor.ahead.StartsVisible) := by
  refine run.ok_induction ?_ ?_
  · rw [ahead_started]
    exact ⟨comment.skipBlanks_suffix, fun _ => comment.startsVisible_skipBlanks⟩
  · intro passed session next taken ih
    obtain ⟨ends, visible⟩ := ih
    obtain ⟨item, found, -⟩ := next?_of_convertNext?_ok taken
    obtain ⟨character, behind, ahead, left⟩ := Item.next?_suffix found
    rw [ahead] at ends
    refine ⟨left.trans ((List.suffix_cons character behind).trans ends), ?_⟩
    rw [← ahead] at ends
    exact Item.startsVisible_of_beginsLine found ends visible

end Run

private theorem Heads.exists_introducer {opened : Section}
    (heads : session.Heads style opened) :
    ∃ introducer ∈ session.cursor.ahead.head?,
      isIntroducer introducer = true := by
  obtain ⟨outcome, next, behind, taken, written⟩ := heads
  cases ahead : session.cursor.ahead with
  | nil =>
      rw [convertNext?_eq_none_iff.mpr ahead] at taken
      cases taken
  | cons character rest =>
      refine ⟨character, rfl, ?_⟩
      by_contra plain
      rw [Bool.not_eq_true] at plain
      obtain ⟨after, copied, -⟩ := convertNext?_of_plain style ahead plain
      rw [taken] at copied
      cases copied
      rw [Output.fragments_emit, List.append_cancel_left_eq] at written
      injection written with same
      have known := Section.ofFragment?_heading opened
      rw [← same, Section.ofFragment?_singleton] at known
      cases known

/-- The heading for a tag that begins a line of the comment begins a line of
the Markdown exactly when nothing was written before it, or the last step that
wrote something copied a line break or opened the section on what is returned.
It always does unless the step before it was for a tag that reads no
argument. -/
theorem heading_begins_line_iff {comment : Text} {passed : List Session}
    {opened : Section}
    (run : Run style (started comment) passed (.ok ()) session)
    (heads : session.Heads style opened)
    (first : Text.BeginsLine comment session.cursor.ahead) :
    (session.output.AtLineStart ↔
      ∀ last ∈ (passed.filter (writes style)).getLast?,
        last.breaksLine = true) ∧
    ((∀ previous ∈ passed.getLast?, previous.isBare = false) →
      session.output.AtLineStart) := by
  refine ⟨run.atLineStart_iff, ?_⟩
  intro reads
  cases run with
  | start => exact .inl rfl
  | @step passed previous _ _ run taken =>
      have read := reads previous List.getLast?_concat
      obtain ⟨item, found, written⟩ := next?_of_convertNext?_ok taken
      rw [isBare_of_next? found] at read
      obtain ⟨ends, visible⟩ := run.beginsLine
      rcases Item.of_beginsLine found ends visible first with
        rfl | bare | bracket
      · right
        rw [written]
        exact (congrArg List.getLast? (Output.render_emit _ _)).trans
          List.getLast?_concat
      · rw [bare] at read
        cases read
      · obtain ⟨introducer, stands, tagged⟩ := heads.exists_introducer
        rw [bracket introducer stands] at tagged
        cases tagged

/-- The line break behind the first tag goes with its name, and the heading
still begins a line, as the last step that wrote something copied the line
break in front of that tag. -/
theorem heading_begins_line_behind_brief :
    let comment : Text := "a\n@brief\n@param x".toList
    let letter : Session := started comment
    let lineEnd : Session :=
      ⟨⟨"a".toList, "\n@brief\n@param x".toList⟩, ⟨["a".toList]⟩⟩
    let brief : Session :=
      ⟨⟨"a\n".toList.reverse, "@brief\n@param x".toList⟩,
        ⟨["\n".toList, "a".toList]⟩⟩
    let session : Session :=
      ⟨⟨"a\n@brief\n".toList.reverse, "@param x".toList⟩, brief.output⟩
    let passed : List Session := [letter, lineEnd, brief]
    Run .code letter passed (.ok ()) session ∧
      session.Heads .code .arguments ∧
      Text.BeginsLine comment session.cursor.ahead ∧
      passed.filter (writes .code) = [letter, lineEnd] ∧
      brief.isBare = true ∧
      (session.output.AtLineStart ↔
        ∀ last ∈ (passed.filter (writes .code)).getLast?,
          last.breaksLine = true) ∧
      ((∀ previous ∈ passed.getLast?, previous.isBare = false) →
        session.output.AtLineStart) ∧
      session.output.AtLineStart := by
  intro comment letter lineEnd brief session passed
  have copiedLetter : Run .code letter [letter] (.ok ()) lineEnd :=
    .step .start (by decide +kernel)
  have copiedBreak : Run .code letter [letter, lineEnd] (.ok ()) brief :=
    .step copiedLetter (by decide +kernel)
  have run : Run .code letter passed (.ok ()) session :=
    .step copiedBreak (by decide +kernel)
  have heads : session.Heads .code .arguments :=
    ⟨.ok (), ⟨⟨comment.reverse, []⟩,
      ⟨["* `x` -".toList, "\n\n".toList, "# Arguments".toList,
        "\n".toList, "a".toList]⟩⟩,
      ["\n\n".toList, "* `x` -".toList], by decide +kernel, by decide⟩
  have first : Text.BeginsLine comment session.cursor.ahead :=
    ⟨"a\n@brief\n".toList, [], rfl, List.forall_mem_nil _, .inr rfl⟩
  have wrote : passed.filter (writes .code) = [letter, lineEnd] := by
    decide +kernel
  have bare : brief.isBare = true := by decide +kernel
  obtain ⟨begins, reads⟩ := heading_begins_line_iff run heads first
  have broken : ∀ last ∈ (passed.filter (writes .code)).getLast?,
      last.breaksLine = true := by
    intro last found
    rw [wrote] at found
    cases found
    decide +kernel
  exact ⟨run, heads, first, wrote, bare, begins, reads, begins.mpr broken⟩

/-- The line break behind the first tag goes with its name, and the markup that
the tag leaves stands in front of the heading. -/
theorem heading_within_line :
    let comment : Text := "@note\n@param x".toList
    let session : Session :=
      ⟨⟨"@note\n".toList.reverse, "@param x".toList⟩,
        ⟨["> **Note** ".toList]⟩⟩
    convert .code comment =
        .ok "> **Note** # Arguments\n\n* `x` -".toList ∧
      Run .code (started comment) [started comment] (.ok ()) session ∧
      session.Heads .code .arguments ∧
      Text.BeginsLine comment session.cursor.ahead ∧
      ¬ session.output.AtLineStart := by
  intro comment session
  have run : Run .code (started comment) [started comment] (.ok ()) session :=
    .step .start (by decide +kernel)
  have heads : session.Heads .code .arguments :=
    ⟨.ok (), ⟨⟨comment.reverse, []⟩,
      ⟨["* `x` -".toList, "\n\n".toList, "# Arguments".toList,
        "> **Note** ".toList]⟩⟩,
      ["\n\n".toList, "* `x` -".toList], by decide +kernel, by decide⟩
  have first : Text.BeginsLine comment session.cursor.ahead :=
    ⟨"@note\n".toList, [], rfl, List.forall_mem_nil _, .inr rfl⟩
  have render : session.output.render = [] ++ "> **Note** ".toList := rfl
  have inside := Output.not_atLineStart render (by decide)
  exact ⟨by decide +kernel, run, heads, first, inside⟩

end Session

end DocTag
