import DocTag.Proofs.Fragments
import DocTag.Proofs.Indentation
/-!
Where the Markdown of a comment breaks its lines.

A line break is copied together with all the blanks behind it, and a tag that
writes nothing takes the blanks behind its name with it.  So what is written
next, if anything is, starts with no blank: no line of the Markdown is indented
or empty, but for the empty line behind the heading of a section.
-/

namespace DocTag

/-- The text ends with the heading of a section, and the separator of the
heading is written behind it. -/
def Output.HeadsEnd (output : Output) (text : Text) : Prop :=
  ∃ (before behind : List Text) (opened : Section),
    output.fragments =
        before ++ opened.heading :: headingSeparator :: behind ∧
      text = before.flatten ++ opened.heading

/-- Fragments in which a blank follows a line break only in the separator of a
heading. -/
inductive IsTidy : List Text → Prop
  | nil : IsTidy []
  | inLine {fragment : Text} {rest : List Text} (oneLine : '\n' ∉ fragment)
      (tidy : IsTidy rest) : IsTidy (fragment :: rest)
  | lineBreak {rest : List Text} (visible : Text.StartsVisible rest.flatten)
      (tidy : IsTidy rest) : IsTidy (['\n'] :: rest)
  | heading (opened : Section) {rest : List Text}
      (visible : Text.StartsVisible rest.flatten) (tidy : IsTidy rest) :
      IsTidy (opened.heading :: Output.headingSeparator :: rest)

private theorem Section.newline_not_mem_heading (opened : Section) :
    '\n' ∉ opened.heading := by
  cases opened <;> decide

private theorem Output.headingSeparator_eq :
    headingSeparator = ['\n', '\n'] := by
  decide

namespace Text

private theorem split_behind {front text before behind : Text}
    (oneLine : '\n' ∉ front) (split : front ++ text = before ++ '\n' :: behind) :
    ∃ between : Text, before = front ++ between ∧
      text = between ++ '\n' :: behind := by
  rcases List.append_eq_append_iff.mp split with
    ⟨between, rfl, inText⟩ | ⟨between, rfl, inFront⟩
  · exact ⟨between, rfl, inText⟩
  · cases between with
    | nil =>
        refine ⟨[], ?_, inFront.symm⟩
        rw [List.append_nil, List.append_nil]
    | cons first between =>
        cases inFront
        exact absurd (List.mem_append_right before List.mem_cons_self) oneLine

private theorem not_startsVisible_blankLine {blanks : Text} (behind : Text)
    (blank : ∀ blank ∈ blanks, isBlank blank = true) :
    ¬ StartsVisible (blanks ++ '\n' :: behind) := by
  intro visible
  cases blanks with
  | nil => cases visible '\n' rfl
  | cons first blanks =>
      have shown := visible first rfl
      rw [blank first List.mem_cons_self] at shown
      cases shown

end Text

/-- A line break in tidy fragments is followed by no blank, or it is the first
one of the separator of a heading. -/
private theorem IsTidy.startsVisible_or {fragments : List Text}
    (tidy : IsTidy fragments) {before behind : Text}
    (split : fragments.flatten = before ++ '\n' :: behind) :
    behind.StartsVisible ∨
      ∃ (front rest : List Text) (opened : Section),
        fragments =
            front ++ opened.heading :: Output.headingSeparator :: rest ∧
          before = front.flatten ++ opened.heading := by
  induction tidy generalizing before with
  | nil => cases before <;> cases split
  | @inLine fragment rest oneLine tidy ih =>
      rw [List.flatten_cons] at split
      obtain ⟨between, rfl, inRest⟩ := Text.split_behind oneLine split
      refine (ih inRest).imp_right ?_
      rintro ⟨front, rest, opened, rfl, rfl⟩
      exact ⟨fragment :: front, rest, opened, rfl,
        (List.append_assoc fragment front.flatten opened.heading).symm⟩
  | @lineBreak rest visible tidy ih =>
      cases before with
      | nil =>
          cases split
          exact .inl visible
      | cons first between =>
          injection split with same inRest
          refine (ih inRest).imp_right ?_
          rintro ⟨front, rest, opened, rfl, rfl⟩
          exact ⟨['\n'] :: front, rest, opened, rfl, by rw [← same]; rfl⟩
  | @heading opened rest visible tidy ih =>
      rw [List.flatten_cons, List.flatten_cons] at split
      obtain ⟨between, rfl, inRest⟩ :=
        Text.split_behind opened.newline_not_mem_heading split
      rw [Output.headingSeparator_eq] at inRest
      match between with
      | [] => exact .inr ⟨[], rest, opened, rfl, List.append_nil _⟩
      | [first] =>
          injection inRest with _ inRest
          injection inRest with _ inRest
          exact .inl (inRest ▸ visible)
      | first :: second :: between =>
          injection inRest with firstLine inRest
          injection inRest with secondLine inRest
          refine (ih inRest).imp_right ?_
          rintro ⟨front, rest, other, rfl, rfl⟩
          refine ⟨opened.heading :: Output.headingSeparator :: front, rest,
            other, rfl, ?_⟩
          rw [← firstLine, ← secondLine, List.flatten_cons, List.flatten_cons,
            Output.headingSeparator_eq]
          simp

namespace Item

/-- A tag that is read breaks a line nowhere but in its attribute list. -/
private theorem newline_not_mem_given {text rest : Text} {used : Tag}
    (found : next? text = some (.ok (.tag used, rest)))
    (oneLine : IsOneLine (.tag used)) : '\n' ∉ used.given := by
  rcases next?_eq_ok_iff.mp found with
    ⟨character, behind, -, -, impossible, -⟩ |
    ⟨introducer, behind, argument, tagged, rfl, read, same⟩
  · cases impossible
  · cases same
    have inTag : introducer ≠ '\n' := by
      rintro rfl
      cases tagged
    have inName : '\n' ∉ behind.word := by
      intro member
      cases Text.isWordSeparator_of_mem_word member
    have inText : '\n' ∉ argument.text := by
      intro member
      cases Rule.isWordSeparator_of_mem_text read member
    have inList : '\n' ∉ argument.annotation := by
      cases argument with
      | absent | word => exact List.not_mem_nil
      | annotated attributes name =>
          simpa [Argument.annotation] using oneLine attributes name rfl
    simp [Tag.given, inTag.symm, inName, inText, inList]

private theorem startsVisible_of_fragment?_eq_none {text rest : Text}
    {used : Tag}
    {style : ReferenceStyle} (found : next? text = some (.ok (.tag used, rest)))
    (written : fragment? style (.tag used) = none) : rest.StartsVisible := by
  apply startsVisible_of_isBare found
  exact Rule.isBare_of_fragment?_eq_none written

theorem isTidy_append {text rest : Text} {item : Item} {more : List Text}
    (found : next? text = some (.ok (item, rest))) (oneLine : item.IsOneLine)
    (tidy : IsTidy more)
    (visible : rest.StartsVisible → Text.StartsVisible more.flatten)
    (style : ReferenceStyle) (opened : Finset Section) :
    let written := Section.announced opened item.asked? ++
      (item.fragment? style).toList ++ more
    IsTidy written ∧
      (text.StartsVisible → Text.StartsVisible written.flatten) := by
  intro written
  cases item with
  | copied character =>
      rcases next?_eq_ok_iff.mp found with
        ⟨same, behind, rfl, -, copied, left⟩ | ⟨_, _, _, _, _, _, impossible⟩
      · cases copied
        refine ⟨?_, ?_⟩
        · by_cases line : character = '\n'
          · rw [if_pos line] at left
            rw [left] at visible
            subst line
            exact .lineBreak (visible behind.startsVisible_skipBlanks) tidy
          · exact .inLine (by simpa using Ne.symm line) tidy
        · rintro starts first ⟨⟩
          exact starts character rfl
      · cases impossible
  | tag used =>
      have body : IsTidy ((fragment? style (.tag used)).toList ++ more) ∧
          Text.StartsVisible
            ((fragment? style (.tag used)).toList ++ more).flatten := by
        cases fragment : fragment? style (.tag used) with
        | none =>
            exact ⟨tidy,
              visible (startsVisible_of_fragment?_eq_none found fragment)⟩
        | some fragment =>
            have framed := used.isFramed_fragment? fragment
            have inLine := framed.made.not_mem rfl
              (newline_not_mem_given found oneLine)
            exact ⟨.inLine inLine tidy,
              Text.startsVisible_append _ framed.shows⟩
      have split : written = Section.announced opened (asked? (.tag used)) ++
          ((fragment? style (.tag used)).toList ++ more) :=
        List.append_assoc _ _ _
      rw [split]
      cases asked? (.tag used) with
      | none => exact ⟨body.1, fun _ => body.2⟩
      | some asked =>
          by_cases isOpen : asked ∈ opened
          · rw [Section.announced_of_mem isOpen]
            exact ⟨body.1, fun _ => body.2⟩
          · rw [Section.announced_of_not_mem isOpen]
            refine ⟨.heading asked body.2 body.1, fun _ => ?_⟩
            apply Text.startsVisible_append
            cases asked <;> rfl

theorem isTidy_written {text : Text} {items : List Item}
    (scanned : scan text = .ok items) (oneLine : ∀ item ∈ items, item.IsOneLine)
    (style : ReferenceStyle) (opened : Finset Section) :
    IsTidy (written style opened items) ∧
      (text.StartsVisible →
        Text.StartsVisible (written style opened items).flatten) := by
  revert opened oneLine
  refine scan_ok_induction scanned ?_ ?_
  · intro oneLine opened
    exact ⟨.nil, fun _ _ first => by cases first⟩
  · intro text item rest items found ih oneLine opened
    obtain ⟨first, others⟩ := List.forall_mem_cons.mp oneLine
    obtain ⟨tidy, visible⟩ :=
      ih others (Section.openedWith opened item.asked?)
    exact isTidy_append found first tidy visible style opened

end Item

private theorem Output.HeadsEnd.ne_append_newline {output : Output}
    {text before : Text}
    (heads : output.HeadsEnd text) : text ≠ before ++ ['\n'] := by
  obtain ⟨front, behind, opened, -, rfl⟩ := heads
  intro closed
  have last := congrArg List.getLast? closed
  have titled : opened.heading ≠ [] := by
    cases opened <;> decide
  rw [List.getLast?_concat, List.getLast?_append_of_ne_nil _ titled] at last
  exact opened.newline_not_mem_heading (List.mem_of_getLast? last)

/-- Where blanks follow line breaks behind headings only, a blank line is an
empty line behind a heading. -/
private theorem Output.headsEnd_of_blankLine {output : Output}
    (tidy : ∀ before behind : Text,
      output.render = before ++ '\n' :: behind →
        behind.StartsVisible ∨ output.HeadsEnd before)
    {before blanks behind : Text}
    (split : output.render = before ++ '\n' :: (blanks ++ '\n' :: behind))
    (blank : ∀ blank ∈ blanks, Text.isBlank blank = true) :
    blanks = [] ∧ output.HeadsEnd before := by
  have heads := (tidy before _ split).resolve_left
    (Text.not_startsVisible_blankLine behind blank)
  refine ⟨?_, heads⟩
  cases blanks with
  | nil => rfl
  | cons first blanks =>
      -- The first blank would be the second line break of the separator.
      obtain ⟨front, rest, opened, fragments, rfl⟩ := heads
      have whole := split
      rw [render, fragments, List.flatten_append, List.append_assoc,
        List.append_cancel_left_eq, List.flatten_cons,
        List.append_cancel_left_eq, List.flatten_cons, headingSeparator_eq]
        at whole
      injection whole with _ whole
      injection whole with isLine _
      subst isLine
      obtain ⟨-, others⟩ := List.forall_mem_cons.mp blank
      have again : output.render =
          front.flatten ++ opened.heading ++ ['\n'] ++
            '\n' :: (blanks ++ '\n' :: behind) := by
        rw [split]
        simp
      have closed := (tidy _ _ again).resolve_left
        (Text.not_startsVisible_blankLine behind others)
      exact absurd rfl closed.ne_append_newline

/-- In the Markdown of a comment whose attribute lists break no line, no blank
stands in front of the text or behind a line break, but for the line break that
parts a heading from what is below it.  So empty lines stand right behind
headings only. -/
theorem convert_breaks_lines {style : ReferenceStyle} {comment markdown : Text}
    (converted : convert style comment = .ok markdown)
    (oneLine : ∀ attributes name : Text,
      ReadsArgument style comment (.annotated attributes name) →
        '\n' ∉ attributes) :
    markdown.StartsVisible ∧
      ∃ output : Output, (Session.started comment).drain style = .ok output ∧
        output.render = markdown ∧
        (∀ before behind : Text, markdown = before ++ '\n' :: behind →
          behind.StartsVisible ∨ output.HeadsEnd before) ∧
        ∀ before blanks behind : Text,
          markdown = before ++ '\n' :: (blanks ++ '\n' :: behind) →
            (∀ blank ∈ blanks, Text.isBlank blank = true) →
              blanks = [] ∧ output.HeadsEnd before := by
  have listed := Text.listsAreOneLine_of_reads oneLine
  change ((Session.started comment).drain style).map Output.render =
    .ok markdown at converted
  cases drained : (Session.started comment).drain style with
  | error fault =>
      rw [drained] at converted
      cases converted
  | ok output =>
      rw [drained] at converted
      cases converted
      rw [Session.drain_started] at drained
      cases scanned : Item.scan comment.skipBlanks with
      | error fault =>
          rw [scanned] at drained
          cases drained
      | ok items =>
          rw [scanned] at drained
          injection drained with same
          have fragments : output.fragments = Item.written style ∅ items := by
            rw [← same]
            exact Output.fragments_foldl_write {} style items
          obtain ⟨tidy, visible⟩ :=
            Item.isTidy_written scanned (listed items scanned) style ∅
          rw [← fragments] at tidy visible
          have breaks : ∀ before behind : Text,
              output.render = before ++ '\n' :: behind →
                behind.StartsVisible ∨ output.HeadsEnd before :=
            fun before behind => tidy.startsVisible_or
          exact ⟨visible comment.startsVisible_skipBlanks, output, rfl, rfl,
            breaks, fun before blanks behind =>
              Output.headsEnd_of_blankLine breaks⟩

/-- The blank line of the comment is gone, and the one behind the heading is
there. -/
theorem convert_breaks_lines_returns :
    let comment : Text := " @return\n the sum\n\n @param [in] x".toList
    let markdown : Text :=
      "# Returns\n\nthe sum\n# Arguments\n\n* `x` \\[in\\] -".toList
    convert .code comment = .ok markdown ∧
      (∀ attributes name : Text,
        ReadsArgument .code comment (.annotated attributes name) →
          '\n' ∉ attributes) ∧
      markdown.StartsVisible ∧
      ∃ output : Output, (Session.started comment).drain .code = .ok output ∧
        output.HeadsEnd "# Returns".toList := by
  intro comment markdown
  have converted : convert .code comment = .ok markdown := by
    decide +kernel
  have scanned : Item.scan comment.skipBlanks =
      .ok (.tag ⟨'@', "return".toList, .absent, rfl⟩ ::
        ("the sum\n".toList.map Item.copied ++
          [.tag ⟨'@', "param".toList,
            .annotated "in".toList "x".toList, rfl⟩])) := by
    decide +kernel
  have oneLine : ∀ attributes name : Text,
      ReadsArgument .code comment (.annotated attributes name) →
        '\n' ∉ attributes := by
    intro attributes name reads
    obtain ⟨used, member, same⟩ := (readsArgument_iff scanned).mp reads
    simp only [List.mem_cons, List.mem_append, List.mem_map, reduceCtorEq,
      and_false, exists_false, false_or, List.not_mem_nil, or_false,
      Item.tag.injEq] at member
    rcases member with rfl | rfl
    · cases same
    · cases same
      decide
  obtain ⟨visible, output, drained, -, breaks, -⟩ :=
    convert_breaks_lines converted oneLine
  refine ⟨converted, oneLine, visible, output, drained, ?_⟩
  apply (breaks "# Returns".toList _ rfl).resolve_left
  intro shows
  cases shows '\n' rfl

end DocTag
