import DocTag.Proofs.Run
import Mathlib.Data.List.DropRight
/-!
When a conversion fails.

Only the tag `param` reads an attribute list, and it does so only where no
word stands.  Behind the blanks that follow a tag name the two classes of
characters leave two such places: the end of the text, and an opening bracket.
So a conversion fails at the first dispatch of `param` at the end of the text,
or in front of a list that is never closed, and nowhere else.
-/

namespace DocTag

/-- The next step dispatches the tag `param` at the end of the text, or in
front of an attribute list that is not closed. -/
def Session.Breaks (session : Session) (message : Text) : Prop :=
  ∃ (introducer : Char) (behind : Text),
    session.cursor.ahead = introducer :: behind ∧
      isIntroducer introducer = true ∧ behind.word = "param".toList ∧
      (behind.behindWord.skipBlanks = [] ∧
          message = "Expected opening '[' inside attribute list".toList ∨
        (∃ list : Text, behind.behindWord.skipBlanks = '[' :: list ∧
          ']' ∉ list) ∧
          message = "Expected closing ']' inside attribute list".toList)

theorem Text.readParameter_skipBlanks_eq_error_iff {text : Text}
    {fault : AttributeFault} :
    text.skipBlanks.readParameter = .error fault ↔
      text.skipBlanks = [] ∧ fault = .openingMissing ∨
        (∃ list : Text, text.skipBlanks = '[' :: list ∧ ']' ∉ list) ∧
          fault = .closingMissing := by
  cases ahead : text.skipBlanks with
  | nil =>
      rw [readParameter_of_word_eq_nil rfl]
      cases fault <;> simp [readAttributes, Except.map]
  | cons first rest =>
      have visible := isBlank_eq_false_of_skipBlanks ahead
      cases separates : isWordSeparator first with
      | true =>
          obtain rfl := eq_bracket_of_isWordSeparator separates visible
          rw [readParameter_of_word_eq_nil
            (word_eq_nil_of_isWordSeparator rest separates), readAttributes_eq]
          by_cases closed : ']' ∈ rest
          · simp [closed, Except.map]
          · cases fault <;> simp [closed, Except.map]
      | false =>
          have named := word_ne_nil_of_isWordSeparator rest separates
          have other : first ≠ '[' := by
            rintro rfl
            cases separates
          rw [readParameter_of_word_ne_nil named]
          simp [other]

/-- Only the rule of the tag `param` can fail to read its argument. -/
theorem Rule.read_ofName_eq_error_iff {name text : Text}
    {fault : AttributeFault} :
    (Rule.ofName name).read text = .error fault ↔
      name = "param".toList ∧ text.readParameter = .error fault := by
  constructor
  · intro failed
    have opens := Rule.opens?_ofName name
    cases rule : Rule.ofName name with
    | parameter =>
        rw [rule] at failed opens
        have tag := Section.ofTag?_eq_some_iff.mp opens.symm
        exact ⟨List.mem_singleton.mp tag, failed⟩
    | returnValue | span | reference | related | returned | lead | silent |
        verbatim =>
        rw [rule] at failed
        cases failed
  · rintro ⟨rfl, failed⟩
    exact failed

theorem AttributeFault.message_inj {first second : AttributeFault} :
    first.message = second.message ↔ first = second := by
  cases first <;> cases second <;> decide

namespace Session

private theorem next?_eq_error_iff_breaks {session : Session}
    {fault : AttributeFault} :
    Item.next? session.cursor.ahead = some (.error fault) ↔
      session.Breaks fault.message := by
  rw [Item.next?_eq_error_iff]
  constructor
  · rintro ⟨introducer, behind, ahead, tagged, read⟩
    obtain ⟨name, argument⟩ := Rule.read_ofName_eq_error_iff.mp read
    refine ⟨introducer, behind, ahead, tagged, name, ?_⟩
    rw [Text.readParameter_skipBlanks_eq_error_iff] at argument
    exact argument.imp
      (And.imp_right AttributeFault.message_inj.mpr)
      (And.imp_right AttributeFault.message_inj.mpr)
  · rintro ⟨introducer, behind, ahead, tagged, name, place⟩
    refine ⟨introducer, behind, ahead, tagged, ?_⟩
    rw [Rule.read_ofName_eq_error_iff,
      Text.readParameter_skipBlanks_eq_error_iff]
    exact ⟨name, place.imp
      (And.imp_right AttributeFault.message_inj.mp)
      (And.imp_right AttributeFault.message_inj.mp)⟩

theorem breaks_iff (session : Session) (style : ReferenceStyle)
    (fault : AttributeFault) :
    session.Breaks fault.message ↔
      ∃ stopped : Session,
        session.convertNext? style = some (.error fault, stopped) := by
  rw [← next?_eq_error_iff_breaks]
  constructor
  · exact convertNext?_of_next?_error style
  · rintro ⟨stopped, taken⟩
    rcases next?_of_convertNext? taken with ⟨other, failed, found⟩ |
      ⟨item, succeeded, -⟩
    · cases failed
      exact found
    · cases succeeded

private theorem Breaks.message_eq {session : Session} {message : Text}
    (breaks : session.Breaks message) :
    ∃ fault : AttributeFault, fault.message = message := by
  obtain ⟨introducer, behind, -, -, -, ⟨-, rfl⟩ | ⟨-, rfl⟩⟩ := breaks
  · exact ⟨.openingMissing, rfl⟩
  · exact ⟨.closingMissing, rfl⟩

theorem Run.not_breaks {style : ReferenceStyle} {start session : Session}
    {passed : List Session} (run : Run style start passed (.ok ()) session) :
    ∀ earlier ∈ passed, ∀ message : Text, ¬ earlier.Breaks message := by
  refine run.ok_induction ?_ ?_
  · intro earlier member
    cases member
  · intro passed session next taken ih earlier member message breaks
    rcases List.mem_append.mp member with before | last
    · exact ih earlier before message breaks
    · obtain rfl := List.mem_singleton.mp last
      obtain ⟨fault, rfl⟩ := breaks.message_eq
      obtain ⟨stopped, failed⟩ := (earlier.breaks_iff style fault).mp breaks
      rw [failed] at taken
      cases taken

/-- The tag of a dispatch that fails is `param` with its introducer, and only
blanks stand between it and the place where the dispatch fails. -/
private theorem Run.text_of_breaks {style : ReferenceStyle} {comment : Text}
    {fault : AttributeFault} {session : Session} {passed : List Session}
    (run : Run style (started comment) passed (.ok ()) session)
    (breaks : session.Breaks fault.message) :
    ∃ before blanks rest : Text,
      ∃ tag ∈ ["@param".toList, "\\param".toList],
        comment = before ++ (tag ++ (blanks ++ rest)) ∧
          (∀ blank ∈ blanks, Text.isBlank blank = true) ∧
          (rest = [] ∧ fault = .openingMissing ∨
            (∃ list : Text, rest = '[' :: list ∧ ']' ∉ list) ∧
              fault = .closingMissing) := by
  obtain ⟨introducer, behind, ahead, tagged, name, place⟩ := breaks
  have left := run.ahead_suffix
  rw [ahead_started, ahead] at left
  obtain ⟨before, whole⟩ := left.trans comment.skipBlanks_suffix
  have blanks : behind.behindWord.takeWhile Text.isBlank ++
      behind.behindWord.skipBlanks = behind.behindWord :=
    List.takeWhile_append_dropWhile
  refine ⟨before, behind.behindWord.takeWhile Text.isBlank,
    behind.behindWord.skipBlanks, introducer :: "param".toList, ?_, ?_, ?_, ?_⟩
  · rcases eq_of_isIntroducer tagged with rfl | rfl <;> decide
  · rw [blanks, ← name, List.cons_append, behind.word_append_behindWord, whole]
  · intro blank member
    exact List.mem_takeWhile_imp member
  · exact place.imp
      (And.imp_right AttributeFault.message_inj.mp)
      (And.imp_right AttributeFault.message_inj.mp)

end Session

theorem convert_eq_error_iff_breaks {style : ReferenceStyle} {comment : Text}
    {fault : AttributeFault} :
    convert style comment = .error fault ↔
      ∃ (passed : List Session) (session : Session),
        Session.Run style (Session.started comment) passed (.ok ()) session ∧
          session.Breaks fault.message := by
  have drained : convert style comment = .error fault ↔
      (Session.started comment).drain style = .error fault := by
    change ((Session.started comment).drain style).map Output.render =
      .error fault ↔ _
    cases (Session.started comment).drain style <;> simp [Except.map]
  rw [drained, Session.drain_eq_error_iff]
  constructor
  · rintro ⟨passed, stopped, run⟩
    cases run with
    | step run taken =>
        exact ⟨_, _, run, (Session.breaks_iff _ style fault).mpr ⟨_, taken⟩⟩
  · rintro ⟨passed, session, run, breaks⟩
    obtain ⟨stopped, taken⟩ := (session.breaks_iff style fault).mp breaks
    exact ⟨_, stopped, run.step taken⟩

private theorem rdropWhile_append_blanks {last : Char} (text : Text)
    {blanks : Text} (visible : Text.isBlank last = false)
    (blank : ∀ blank ∈ blanks, Text.isBlank blank = true) :
    (text ++ [last] ++ blanks).rdropWhile Text.isBlank = text ++ [last] := by
  unfold List.rdropWhile
  rw [List.reverse_append, List.dropWhile_append_of_pos, List.reverse_append,
    List.reverse_singleton, List.singleton_append,
    List.dropWhile_cons_of_neg (by simp [visible])]
  · simp
  · intro character member
    exact blank character (List.mem_reverse.mp member)

private theorem suffix_of_openingMissing {style : ReferenceStyle}
    {comment : Text} (failed : convert style comment = .error .openingMissing) :
    ∃ tag ∈ ["@param".toList, "\\param".toList],
      tag <:+ comment.rdropWhile Text.isBlank := by
  obtain ⟨passed, session, run, breaks⟩ :=
    convert_eq_error_iff_breaks.mp failed
  obtain ⟨before, blanks, rest, tag, isTag, rfl, blank, place⟩ :=
    run.text_of_breaks breaks
  rcases place with ⟨rfl, -⟩ | ⟨-, impossible⟩
  · refine ⟨tag, isTag, before, ?_⟩
    have ending : ∀ tag ∈ ["@param".toList, "\\param".toList],
        tag.dropLast ++ ['m'] = tag := by
      decide
    have trimmed := rdropWhile_append_blanks (before ++ tag.dropLast)
      (show Text.isBlank 'm' = false from rfl) blank
    rw [List.append_assoc before, ending tag isTag] at trimmed
    rw [List.append_nil, ← List.append_assoc, trimmed]
  · cases impossible

private theorem split_of_closingMissing {style : ReferenceStyle}
    {comment : Text} (failed : convert style comment = .error .closingMissing) :
    ∃ before blanks list : Text,
      ∃ tag ∈ ["@param".toList, "\\param".toList],
        comment = before ++ (tag ++ (blanks ++ '[' :: list)) ∧
          (∀ blank ∈ blanks, Text.isBlank blank = true) ∧ ']' ∉ list := by
  obtain ⟨passed, session, run, breaks⟩ :=
    convert_eq_error_iff_breaks.mp failed
  obtain ⟨before, blanks, rest, tag, isTag, rfl, blank, place⟩ :=
    run.text_of_breaks breaks
  rcases place with ⟨-, impossible⟩ | ⟨⟨list, rfl, unclosed⟩, -⟩
  · cases impossible
  · exact ⟨before, blanks, list, tag, isTag, rfl, blank, unclosed⟩

private theorem convert_append_bracket_ne_error (style : ReferenceStyle)
    (comment : Text) (fault : AttributeFault) :
    convert style (comment ++ [']']) ≠ .error fault := by
  intro failed
  obtain ⟨passed, session, run, breaks⟩ :=
    convert_eq_error_iff_breaks.mp failed
  obtain ⟨before, blanks, rest, tag, isTag, split, blank, place⟩ :=
    run.text_of_breaks breaks
  have last : (before ++ (tag ++ (blanks ++ rest))).getLast? = some ']' := by
    rw [← split, List.getLast?_concat]
  rcases place with ⟨rfl, -⟩ | ⟨⟨list, rfl, unclosed⟩, -⟩
  · have known : ∀ tag ∈ ["@param".toList, "\\param".toList],
        tag ≠ [] ∧ ']' ∉ tag := by
      decide
    obtain ⟨named, plain⟩ := known tag isTag
    rw [List.append_nil, List.getLast?_append_of_ne_nil _
      (List.append_ne_nil_of_left_ne_nil named blanks)] at last
    rcases List.mem_append.mp (List.mem_of_getLast? last) with inTag | inBlanks
    · exact plain inTag
    · have impossible := blank ']' inBlanks
      cases impossible
  · rw [← List.append_assoc, ← List.append_assoc,
      List.getLast?_append_of_ne_nil _ (List.cons_ne_nil '[' list)] at last
    rcases List.mem_cons.mp (List.mem_of_getLast? last) with opening | inList
    · cases opening
    · exact unclosed inList

/-- A conversion fails at the first dispatch of `param` that finds neither a
word nor a closed list, with the message that says which bracket it lacks; the
style of references never matters. -/
theorem convert_fails_iff (style : ReferenceStyle) (comment : Text) :
    (∀ message : Text,
      (∃ fault, convert style comment = .error fault ∧
          fault.message = message) ↔
        ∃ (passed : List Session) (session : Session),
          Session.Run style (Session.started comment) passed (.ok ())
              session ∧
            session.Breaks message ∧
            ∀ earlier ∈ passed, ∀ other : Text, ¬ earlier.Breaks other) ∧
    (∀ (other : ReferenceStyle) (fault : AttributeFault),
      convert style comment = .error fault ↔
        convert other comment = .error fault) ∧
    (convert style comment = .error .openingMissing →
      ∃ tag ∈ ["@param".toList, "\\param".toList],
        tag <:+ comment.rdropWhile Text.isBlank) ∧
    (convert style comment = .error .closingMissing →
      ∃ before blanks list : Text,
        ∃ tag ∈ ["@param".toList, "\\param".toList],
          comment = before ++ (tag ++ (blanks ++ '[' :: list)) ∧
            (∀ blank ∈ blanks, Text.isBlank blank = true) ∧ ']' ∉ list) ∧
    ∃ markdown, convert style (comment ++ [']']) = .ok markdown := by
  refine ⟨?_, ?_, suffix_of_openingMissing, split_of_closingMissing, ?_⟩
  · intro message
    constructor
    · rintro ⟨fault, failed, rfl⟩
      obtain ⟨passed, session, run, breaks⟩ :=
        convert_eq_error_iff_breaks.mp failed
      exact ⟨passed, session, run, breaks, run.not_breaks⟩
    · rintro ⟨passed, session, run, breaks, -⟩
      obtain ⟨fault, rfl⟩ := breaks.message_eq
      exact ⟨fault,
        convert_eq_error_iff_breaks.mpr ⟨passed, session, run, breaks⟩, rfl⟩
  · intro other fault
    rw [convert_eq_error_iff_scan, convert_eq_error_iff_scan]
  · cases converted : convert style (comment ++ [']']) with
    | error fault =>
        exact absurd converted
          (convert_append_bracket_ne_error style comment fault)
    | ok markdown => exact ⟨markdown, rfl⟩

/-- The first `param` is the word of another tag and breaks nothing. -/
theorem convert_fails_iff_unclosed :
    convert .code "@b @param\n@param [in foo".toList = .error .closingMissing ∧
      ∃ before blanks list : Text,
        ∃ tag ∈ ["@param".toList, "\\param".toList],
          "@b @param\n@param [in foo".toList =
              before ++ (tag ++ (blanks ++ '[' :: list)) ∧
            (∀ blank ∈ blanks, Text.isBlank blank = true) ∧ ']' ∉ list := by
  have failed : convert .code "@b @param\n@param [in foo".toList =
      .error .closingMissing := by
    decide +kernel
  exact ⟨failed, (convert_fails_iff .code
    "@b @param\n@param [in foo".toList).2.2.2.1 failed⟩

end DocTag
