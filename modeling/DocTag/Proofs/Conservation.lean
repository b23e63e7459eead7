import DocTag.Proofs.Passage
import DocTag.Proofs.Run
/-!
No text is lost.

The portions that the steps of a conversion pass make up the whole comment.
What becomes of them in the output is told portion by portion: the marks of
tags that have a rule vanish, blanks may vanish, an attribute list comes behind
the name that follows it, and all the rest is still there, in its order.
-/

namespace DocTag

def Text.visible (text : Text) : Text :=
  text.filter fun character => !isBlank character

/-- What a step passes of a comment, told by what it is taken for. -/
inductive Portion where
  | character (copied : Char)
  | blanks (run : Text)
  /-- A tag: its introducer and its name. -/
  | mark (introducer : Char) (name : Text)
  | list (attributes : Text)
  | word (name : Text)

namespace Portion

def text : Portion → Text
  | .character copied => [copied]
  | .blanks run => run
  | .mark introducer name => introducer :: name
  | .list attributes => '[' :: attributes ++ [']']
  | .word name => name

def ruledMark : Portion → Text
  | .mark introducer name =>
      if (Rule.ofName? name).isSome then introducer :: name else []
  | _ => []

def kept : Portion → Text
  | .mark introducer name =>
      if (Rule.ofName? name).isSome then [] else introducer :: name
  | portion => portion.text

/-- Each attribute list is moved behind the name that follows it. -/
def reordered : List Portion → List Portion
  | .list attributes :: .blanks run :: .word name :: portions =>
      .blanks run :: .word name :: .list attributes :: reordered portions
  | portion :: portions => portion :: reordered portions
  | [] => []

/-- The text of some portions without the marks of tags that have a rule and
without blanks, the attribute lists behind their names. -/
def keptText (portions : List Portion) : Text :=
  Text.visible ((reordered portions).flatMap kept)

end Portion

def Rule.portions (text : Text) : Rule → List Portion
  | .parameter =>
      if text.word = [] then
        match text.readAttributes with
        | .ok (attributes, closed) =>
            [.list attributes, .blanks (closed.takeWhile Text.isBlank),
              .word closed.skipBlanks.word]
        | .error _ => []
      else [.word text.word]
  | .returnValue | .span _ | .reference | .related => [.word text.word]
  | .returned | .lead _ | .silent | .verbatim => []

namespace Session

def portions (session : Session) : List Portion :=
  match session.cursor.ahead with
  | [] => []
  | character :: behind =>
      if isIntroducer character then
        .mark character (Text.word behind) ::
          .blanks ((Text.behindWord behind).takeWhile Text.isBlank) ::
          (Rule.ofName (Text.word behind)).portions
            (Text.behindWord behind).skipBlanks
      else if character = '\n' then
        [.character character, .blanks (behind.takeWhile Text.isBlank)]
      else [.character character]

def slice (comment : Text) (style : ReferenceStyle) (session : Session) :
    Text :=
  match session.convertNext? style with
  | none => []
  | some (_, next) =>
      comment.extract session.cursor.position next.cursor.position

end Session

namespace Text

theorem visible_append (front text : Text) :
    visible (front ++ text) = visible front ++ visible text :=
  List.filter_append _ _

theorem visible_sublist (text : Text) : text.visible.Sublist text :=
  List.filter_sublist

private theorem visible_takeWhile_isBlank (text : Text) :
    visible (text.takeWhile isBlank) = [] := by
  rw [visible, List.filter_eq_nil_iff]
  intro character member
  have blank : isBlank character = true := List.mem_takeWhile_imp member
  rw [blank]
  decide

end Text

private theorem Text.takeWhile_append_skipBlanks (text : Text) :
    text.takeWhile isBlank ++ text.skipBlanks = text :=
  List.takeWhile_append_dropWhile

theorem Rule.portions_of_read {rule : Rule} {text rest : Text}
    {argument : Argument} (read : rule.read text = .ok (argument, rest)) :
    (argument = .absent ∧ rest = text ∧ rule.portions text = []) ∨
      (argument = .word text.word ∧ rest = text.behindWord ∧
        rule.portions text = [.word text.word]) ∨
      ∃ attributes closed : Text,
        text.readAttributes = .ok (attributes, closed) ∧
        argument = .annotated attributes closed.skipBlanks.word ∧
        rest = closed.skipBlanks.behindWord ∧
        rule.portions text =
          [.list attributes, .blanks (closed.takeWhile Text.isBlank),
            .word closed.skipBlanks.word] := by
  cases rule with
  | parameter =>
      rcases Text.readParameter_eq_ok read with
        ⟨named, rfl, rfl⟩ | ⟨attributes, closed, noWord, listed, rfl, rfl⟩
      · exact .inr (.inl ⟨rfl, rfl, if_neg named⟩)
      · refine .inr (.inr ⟨attributes, closed, listed, rfl, rfl, ?_⟩)
        rw [portions, if_pos noWord, listed]
  | returnValue | span | reference | related =>
      cases read
      exact .inr (.inl ⟨rfl, rfl, rfl⟩)
  | returned | lead | silent | verbatim =>
      cases read
      exact .inl ⟨rfl, rfl, rfl⟩

theorem Rule.portions_append {rule : Rule} {text rest : Text}
    {argument : Argument} (read : rule.read text = .ok (argument, rest)) :
    (rule.portions text).flatMap Portion.text ++ rest = text := by
  rcases portions_of_read read with
    ⟨-, rfl, none⟩ | ⟨-, rfl, word⟩ | ⟨attributes, closed, listed, -, rfl, list⟩
  · rw [none]
    rfl
  · simp only [word, List.flatMap_singleton, Portion.text,
      Text.word_append_behindWord]
  · have whole := Text.readAttributes_append_rest listed
    rw [list]
    simpa [Portion.text, Text.word_append_behindWord,
      Text.takeWhile_append_skipBlanks] using whole

theorem Rule.keptText_portions_sublist {rule : Rule} {text rest : Text}
    {argument : Argument} (read : rule.read text = .ok (argument, rest)) :
    (Portion.keptText (rule.portions text)).Sublist
      (argument.text ++ argument.annotation) := by
  rcases portions_of_read read with
    ⟨rfl, -, none⟩ | ⟨rfl, -, word⟩ | ⟨attributes, closed, -, rfl, -, list⟩
  · rw [none]
    exact List.nil_sublist _
  · have kept : Portion.keptText [.word text.word] = text.word.visible := by
      simp [Portion.keptText, Portion.reordered, Portion.kept, Portion.text]
    rw [word, kept]
    exact (Text.visible_sublist _).trans (List.sublist_append_left _ _)
  · have kept : Portion.keptText (rule.portions text) =
        Text.visible (closed.skipBlanks.word ++
          ('[' :: attributes ++ [']'])) := by
      rw [list]
      simp [Portion.keptText, Portion.reordered, Portion.kept, Portion.text,
        Text.visible_append, Text.visible_takeWhile_isBlank]
    rw [kept]
    refine (Text.visible_sublist _).trans
      (List.Sublist.append (List.Sublist.refl _) ?_)
    -- The brackets that are written have a mark in front of each.
    have opening : ['['].Sublist " \\[".toList := by decide
    have closing : [']'].Sublist "\\]".toList := by decide
    exact (opening.append (List.Sublist.refl attributes)).append closing

private theorem ReferenceStyle.sublist_reference (style : ReferenceStyle)
    (target : Text) : target.Sublist (style.reference target) := by
  unfold reference
  split
  · simp only [List.append_assoc]
    rw [← List.append_assoc]
    exact (List.infix_append _ target _).sublist
  · cases style with
    | code => exact (List.infix_append _ target _).sublist
    | intraDoc => exact (List.infix_append _ target _).sublist

/-- A rule writes the argument it has read, the list behind the name. -/
theorem Rule.argument_sublist_fragment? {rule : Rule} {text rest : Text}
    {argument : Argument} (read : rule.read text = .ok (argument, rest))
    (mention : Mention) (style : ReferenceStyle) :
    (argument.text ++ argument.annotation).Sublist
      ((rule.fragment? mention style argument).toList.flatten) := by
  have plain : rule ≠ .parameter → argument.annotation = [] := by
    intro other
    cases rule with
    | parameter => exact absurd rfl other
    | returnValue | span | reference | related | returned | lead | silent
    | verbatim => cases read; rfl
  cases rule with
  | parameter =>
      have framed := (((List.nil_sublist "* `".toList).append
        (List.Sublist.refl argument.text)).append
          (List.nil_sublist "`".toList)).append
            (List.Sublist.refl argument.annotation)
      have closed := framed.append (List.nil_sublist " -".toList)
      rw [List.nil_append, List.append_nil, List.append_nil] at closed
      simpa [fragment?] using closed
  | returnValue | span =>
      rw [plain (by simp), List.append_nil, fragment?, Option.toList_some,
        List.flatten_singleton]
      exact (List.infix_append _ argument.text _).sublist
  | reference =>
      rw [plain (by simp), List.append_nil, fragment?, Option.toList_some,
        List.flatten_singleton]
      exact style.sublist_reference argument.text
  | related =>
      rw [plain (by simp), List.append_nil, fragment?, Option.toList_some,
        List.flatten_singleton]
      exact (style.sublist_reference argument.text).trans
        (List.sublist_append_right _ _)
  | returned | lead | silent | verbatim =>
      cases read
      exact List.nil_sublist _

/-! ### The portions of a step -/

namespace Portion

private theorem keptText_cons {portion : Portion} (portions : List Portion)
    (noList : ∀ attributes : Text, portion ≠ .list attributes) :
    keptText (portion :: portions) =
      portion.kept.visible ++ keptText portions := by
  have first : reordered (portion :: portions) =
      portion :: reordered portions := by
    cases portion with
    | list attributes => exact absurd rfl (noList attributes)
    | character | blanks | mark | word => rfl
  rw [keptText, first, List.flatMap_cons, Text.visible_append]
  rfl

private theorem keptText_blanks (text : Text) (portions : List Portion) :
    keptText (.blanks (text.takeWhile Text.isBlank) :: portions) =
      keptText portions := by
  rw [keptText_cons portions (by simp), kept, Portion.text,
    Text.visible_takeWhile_isBlank, List.nil_append]
  all_goals simp

private theorem kept_mark_sublist {name text rest : Text} {argument : Argument}
    (read : (Rule.ofName name).read text = .ok (argument, rest))
    (introducer : Char) (style : ReferenceStyle) :
    ((kept (.mark introducer name)).visible ++
        keptText ((Rule.ofName name).portions text)).Sublist
      ((Rule.ofName name).fragment? ⟨[introducer], name⟩ style
        argument).toList.flatten := by
  cases found : Rule.ofName? name with
  | some rule =>
      have dropped : kept (.mark introducer name) = [] := by
        simp [kept, found]
      rw [dropped]
      exact (Rule.keptText_portions_sublist read).trans
        (Rule.argument_sublist_fragment? read _ style)
  | none =>
      have verbatim : Rule.ofName name = .verbatim := by
        rw [Rule.ofName, found]
        rfl
      have copied : kept (.mark introducer name) = introducer :: name := by
        simp [kept, found]
      rw [verbatim, copied]
      change ((Text.visible (introducer :: name)) ++ []).Sublist
        (([introducer] ++ name ++ " ".toList) ++ [])
      rw [List.append_nil, List.append_nil]
      exact (Text.visible_sublist _).trans (List.sublist_append_left _ _)

end Portion

namespace Session

variable {session next : Session} {style : ReferenceStyle}

private theorem portions_of_tag {introducer : Char} {behind : Text}
    (ahead : session.cursor.ahead = introducer :: behind)
    (tagged : isIntroducer introducer = true) :
    session.portions =
      .mark introducer behind.word ::
        .blanks (behind.behindWord.takeWhile Text.isBlank) ::
        (Rule.ofName behind.word).portions behind.behindWord.skipBlanks := by
  rw [portions, ahead]
  exact if_pos tagged

private theorem portions_of_plain {character : Char} {behind : Text}
    (ahead : session.cursor.ahead = character :: behind)
    (plain : isIntroducer character = false) :
    session.portions =
      if character = '\n' then
        [.character character, .blanks (behind.takeWhile Text.isBlank)]
      else [.character character] := by
  rw [portions, ahead]
  exact if_neg (by rw [plain]; exact Bool.false_ne_true)

/-- A step passes its portions, and nothing else. -/
private theorem portions_append_ahead
    (taken : session.convertNext? style = some (.ok (), next)) :
    session.portions.flatMap Portion.text ++ next.cursor.ahead =
      session.cursor.ahead := by
  obtain ⟨item, found, -⟩ := next?_of_convertNext?_ok taken
  rcases Item.next?_eq_ok_iff.mp found with
    ⟨character, behind, ahead, plain, -, rest⟩ |
    ⟨introducer, behind, argument, tagged, ahead, read, -⟩
  · rw [portions_of_plain ahead plain, ahead, rest]
    by_cases line : character = '\n'
    · rw [if_pos line, if_pos line]
      simp [Portion.text, Text.takeWhile_append_skipBlanks]
    · rw [if_neg line, if_neg line]
      rfl
  · rw [portions_of_tag ahead tagged, ahead]
    simp only [List.flatMap_cons, Portion.text, List.append_assoc,
      Rule.portions_append read, Text.takeWhile_append_skipBlanks,
      List.cons_append, Text.word_append_behindWord]

/-- What is kept of the portions of a step is written by it. -/
theorem keptText_portions_sublist {item : Item} {rest : Text}
    (found : Item.next? session.cursor.ahead = some (.ok (item, rest)))
    (style : ReferenceStyle) :
    (Portion.keptText session.portions).Sublist
      (item.fragment? style).toList.flatten := by
  rcases Item.next?_eq_ok_iff.mp found with
    ⟨character, behind, ahead, plain, rfl, -⟩ |
    ⟨introducer, behind, argument, tagged, ahead, read, rfl⟩
  · have copied : Portion.keptText session.portions =
        Text.visible [character] := by
      rw [portions_of_plain ahead plain]
      split
      · rw [Portion.keptText_cons _ (by simp), Portion.keptText_blanks]
        exact List.append_nil _
      · rw [Portion.keptText_cons _ (by simp)]
        exact List.append_nil _
    rw [copied]
    exact Text.visible_sublist [character]
  · rw [portions_of_tag ahead tagged, Portion.keptText_cons _ (by simp),
      Portion.keptText_blanks]
    exact Portion.kept_mark_sublist read introducer style

private theorem slice_append_ahead {comment : Text}
    (same : session.cursor.text = comment)
    (taken : session.convertNext? style = some (.ok (), next)) :
    session.slice comment style ++ next.cursor.ahead =
      session.cursor.ahead := by
  rw [slice, taken, ← same]
  exact (precedes_convertNext? taken).extract_append_ahead

private theorem slice_eq_portions {comment : Text}
    (same : session.cursor.text = comment)
    (taken : session.convertNext? style = some (.ok (), next)) :
    session.slice comment style = session.portions.flatMap Portion.text :=
  List.append_cancel_right
    ((slice_append_ahead same taken).trans (portions_append_ahead taken).symm)

end Session

namespace Portion

theorem reordered_perm (portions : List Portion) :
    (reordered portions).Perm portions := by
  fun_induction reordered portions with
  | case1 attributes run name portions ih =>
      refine .trans (.cons _ (.swap _ _ _)) (.trans (.swap _ _ _) ?_)
      exact .cons _ (.cons _ (.cons _ ih))
  | case2 portion portions _ ih => exact .cons portion ih
  | case3 => exact .nil

private theorem count_text (portions : List Portion) (character : Char) :
    (portions.flatMap text).count character =
      (portions.flatMap kept).count character +
        (portions.flatMap ruledMark).count character := by
  induction portions with
  | nil => rfl
  | cons portion portions ih =>
      have split : portion.text.count character =
          portion.kept.count character +
            portion.ruledMark.count character := by
        cases portion with
        | mark introducer name =>
            rw [kept, ruledMark, text]
            split <;> simp
        | character | blanks | list | word => rfl
      simp only [List.flatMap_cons, List.count_append, ih, split]
      omega

private theorem count_keptText {character : Char}
    (visible : Text.isBlank character = false) (portions : List Portion) :
    (keptText portions).count character =
      (portions.flatMap kept).count character := by
  rw [keptText, Text.visible, List.count_filter (by simp [visible])]
  exact ((reordered_perm portions).flatMap_right kept).count_eq character

end Portion

namespace Session.Run

variable {style : ReferenceStyle} {comment : Text} {session : Session}
  {passed : List Session}

theorem text_eq
    (run : Run style (started comment) passed (.ok ()) session) :
    session.cursor.text = comment := by
  refine run.ok_induction ?_ ?_
  · exact (Cursor.precedes_skipBlanks (Cursor.ofText comment)).text_eq
  · intro passed session next taken ih
    exact (precedes_convertNext? taken).text_eq.trans ih

private theorem slice_eq_portions
    (run : Run style (started comment) passed (.ok ()) session) :
    ∀ earlier ∈ passed, earlier.slice comment style =
      earlier.portions.flatMap Portion.text := by
  intro earlier member
  obtain ⟨before, next, reached, taken⟩ := run.exists_step_of_mem earlier member
  exact Session.slice_eq_portions reached.text_eq taken

/-- The slices passed so far, and what is ahead, are the comment. -/
theorem slices_append_ahead
    (run : Run style (started comment) passed (.ok ()) session) :
    comment.takeWhile Text.isBlank ++
        (passed.flatMap (slice comment style) ++ session.cursor.ahead) =
      comment := by
  suffices whole : session.cursor.text = comment ∧
      passed.flatMap (slice comment style) ++ session.cursor.ahead =
        comment.skipBlanks by
    rw [whole.2, Text.takeWhile_append_skipBlanks]
  refine run.ok_induction ?_ ?_
  · have atStart : Run style (started comment) [] (.ok ())
        (started comment) := .start
    exact ⟨atStart.text_eq, ahead_started comment⟩
  · rintro passed session next taken ⟨same, whole⟩
    refine ⟨(precedes_convertNext? taken).text_eq.trans same, ?_⟩
    rw [List.flatMap_append, List.flatMap_singleton, List.append_assoc,
      slice_append_ahead same taken, whole]

theorem keptText_sublist_render
    (run : Run style (started comment) passed (.ok ()) session) :
    (passed.flatMap fun earlier => Portion.keptText earlier.portions).Sublist
      session.output.render := by
  refine run.ok_induction (List.nil_sublist _) ?_
  intro passed session next taken ih
  obtain ⟨item, found, written⟩ := next?_of_convertNext?_ok taken
  have step := (session.keptText_portions_sublist found style).trans
    (List.sublist_append_right
      (Section.announced session.output.sections.toFinset item.asked?).flatten
      _)
  rw [List.flatMap_append, List.flatMap_singleton, written, Output.render,
    Output.fragments_write, List.flatten_append, List.flatten_append]
  exact ih.append step

/-- What a comment has and the output lacks are blanks and the marks of tags
that have a rule. -/
private theorem count_le
    (run : Run style (started comment) passed (.ok ()) session)
    (atEnd : session.cursor.ahead = []) {character : Char}
    (visible : Text.isBlank character = false) :
    comment.count character ≤ session.output.render.count character +
      ((passed.flatMap portions).flatMap Portion.ruledMark).count
        character := by
  have whole := run.slices_append_ahead
  rw [atEnd, List.append_nil] at whole
  have leading : (comment.takeWhile Text.isBlank).count character = 0 := by
    rw [List.count_eq_zero]
    intro member
    have blank := List.mem_takeWhile_imp member
    rw [visible] at blank
    cases blank
  have slices : passed.flatMap (slice comment style) =
      (passed.flatMap portions).flatMap Portion.text := by
    rw [List.flatMap_assoc]
    exact List.flatMap_congr run.slice_eq_portions
  have kept : (passed.flatMap fun earlier =>
      Portion.keptText earlier.portions).count character =
        ((passed.flatMap portions).flatMap Portion.kept).count character := by
    rw [List.flatMap_assoc, List.count_flatMap, List.count_flatMap]
    congr 1
    apply List.map_congr_left
    intro earlier _
    exact Portion.count_keptText visible earlier.portions
  have written := run.keptText_sublist_render.count_le character
  rw [← whole, List.count_append, leading, slices, Portion.count_text]
  omega

end Session.Run

/-- A conversion that returns has passed the whole comment, slice by slice, and
each slice is made up of the portions its step reads.  Without the marks of
tags that have a rule and without blanks, and with each attribute list behind
its name, the portions stand in the output in their order; so nothing else of
the comment is missing there. -/
theorem convert_keeps_text {style : ReferenceStyle} {comment markdown : Text}
    (converted : convert style comment = .ok markdown) :
    ∃ (passed : List Session) (final : Session),
      Session.Run style (Session.started comment) passed (.ok ()) final ∧
        final.cursor.atEnd = true ∧ final.output.render = markdown ∧
        comment.takeWhile Text.isBlank ++
            passed.flatMap (Session.slice comment style) = comment ∧
        (∀ session ∈ passed, session.slice comment style =
          session.portions.flatMap Portion.text) ∧
        (passed.flatMap fun session =>
          Portion.keptText session.portions).Sublist markdown ∧
        ∀ character : Char, Text.isBlank character = false →
          comment.count character ≤ markdown.count character +
            ((passed.flatMap Session.portions).flatMap
              Portion.ruledMark).count character := by
  obtain ⟨passed, final, run, atEnd, rfl⟩ :=
    convert_eq_ok_iff_run.mp converted
  have slices := run.slices_append_ahead
  rw [atEnd, List.append_nil] at slices
  refine ⟨passed, final, run, ?_, rfl, slices, run.slice_eq_portions,
    run.keptText_sublist_render, ?_⟩
  · rw [Cursor.atEnd, atEnd]
    rfl
  · intro character visible
    exact run.count_le atEnd visible

/-- The mark and the blanks of the first tag are gone, its list has moved, and
the second tag is still there. -/
theorem convert_keeps_text_annotated :
    convert .code "@param [in] x\n @todo[y".toList =
        .ok "# Arguments\n\n* `x` \\[in\\] -\n@todo [y".toList ∧
      ∃ (passed : List Session) (final : Session),
        Session.Run .code (Session.started "@param [in] x\n @todo[y".toList)
            passed (.ok ()) final ∧
          (passed.flatMap fun session =>
            Portion.keptText session.portions).Sublist
              "# Arguments\n\n* `x` \\[in\\] -\n@todo [y".toList := by
  have converted : convert .code "@param [in] x\n @todo[y".toList =
      .ok "# Arguments\n\n* `x` \\[in\\] -\n@todo [y".toList := by
    decide +kernel
  obtain ⟨passed, final, run, -, -, -, -, kept, -⟩ :=
    convert_keeps_text converted
  exact ⟨converted, passed, final, run, kept⟩

end DocTag
