import DocTag.Proofs.Run
/-!
What the style of references and the output so far have a part in.

A dispatch reads the comment alone.  So two dispatches at one place of a
comment go the same way, whatever was written before them and whatever the
style: they stop at the same place, with the same fault or none, and add the
same fragments, but for two things.  The heading of a section is left out where
it stands already, and a reference that is no link is written in the style.
Two runs over one comment then keep in step, since their outputs have the same
sections open.
-/

namespace DocTag

def ReferenceStyle.entity (word : Text) : ReferenceStyle → Text
  | .code => ['`'] ++ word ++ ['`']
  | .intraDoc => ['[', '`'] ++ word ++ ['`', ']']

/-- The reference that a tag asks for whose name starts the text: what the tag
puts in front of it, and the word.  A link is left out, for no style has a part
in it. -/
def Text.entity? (text : Text) : Option (Text × Text) :=
  let word := text.behindWord.skipBlanks.word
  if hasPart "://".toList word then none
  else if text.word = "ref".toList then some ([], word)
  else if text.word = "see".toList ∨ text.word = "sa".toList then
    some ("> ".toList, word)
  else none

def Cursor.entity? (cursor : Cursor) : Option (Text × Text) :=
  match cursor.ahead with
  | [] => none
  | character :: behind =>
      if isIntroducer character then Text.entity? behind else none

/-- What is written in two styles is the same, but for the one reference that is
no link. -/
def AlikeBut (entity? : Option (Text × Text)) (first second : ReferenceStyle)
    (here there : List Text) : Prop :=
  match entity? with
  | none => here = there
  | some (lead, word) =>
      here = [lead ++ first.entity word] ∧ there = [lead ++ second.entity word]

namespace Session

structure Writing where
  start : Cursor
  stop : Cursor
  added : List Text
deriving DecidableEq, Repr

def writing (session next : Session) : Writing :=
  ⟨session.cursor, next.cursor,
    next.output.fragments.drop session.output.fragments.length⟩

def writings (session : Session) (style : ReferenceStyle) : List Writing :=
  match taken : session.convertNext? style with
  | none => []
  | some (.error _, stopped) => [session.writing stopped]
  | some (.ok (), next) =>
      have := length_ahead_lt_of_convertNext?_eq_some taken
      session.writing next :: next.writings style
termination_by session.cursor.ahead.length

/-- Two steps over the same part of a comment add the same, but for a reference
that is no link.  A heading that one of them writes the other one writes,
too. -/
structure Writing.Alike (first second : ReferenceStyle)
    (here there : Writing) : Prop where
  start : here.start = there.start
  stop : here.stop = there.stop
  added : ∃ heading hereBody thereBody : List Text,
    here.added = heading ++ hereBody ∧ there.added = heading ++ thereBody ∧
      AlikeBut here.start.entity? first second hereBody thereBody

end Session

private theorem ReferenceStyle.reference_of_link {target : Text}
    (link : Text.hasPart schemeMark target = true)
    (first second : ReferenceStyle) :
    first.reference target = second.reference target := by
  unfold reference
  rw [if_pos link, if_pos link]

private theorem ReferenceStyle.reference_of_entity {target : Text}
    (noLink : ¬ Text.hasPart schemeMark target = true)
    (style : ReferenceStyle) :
    style.reference target = style.entity target := by
  unfold reference
  rw [if_neg noLink]
  cases style <;> rfl

namespace Rule

private theorem ofName_eq_iff_mem_table {name : Text} {rule : Rule}
    (ruled : rule ≠ .verbatim) :
    ofName name = rule ↔ (name, rule) ∈ table := by
  constructor
  · rintro rfl
    unfold ofName at ruled ⊢
    cases found : ofName? name with
    | none =>
        rw [found] at ruled
        exact absurd rfl ruled
    | some known => exact mem_table_of_ofName?_eq_some found
  · intro listed
    have given : ∀ entry ∈ table, ofName entry.1 = entry.2 := by
      decide
    exact given (name, rule) listed

theorem ofName_eq_reference_iff {name : Text} :
    ofName name = .reference ↔ name = "ref".toList := by
  rw [ofName_eq_iff_mem_table (by decide)]
  simp [table]

theorem ofName_eq_related_iff {name : Text} :
    ofName name = .related ↔ name = "see".toList ∨ name = "sa".toList := by
  rw [ofName_eq_iff_mem_table (by decide)]
  simp [table]

end Rule

namespace Text

private theorem entity?_of_link {text : Text}
    (link : hasPart "://".toList text.behindWord.skipBlanks.word = true) :
    text.entity? = none :=
  if_pos link

private theorem entity?_of_reference {text : Text}
    (noLink : ¬ hasPart "://".toList text.behindWord.skipBlanks.word = true)
    (rule : Rule.ofName text.word = .reference) :
    text.entity? = some ([], text.behindWord.skipBlanks.word) := by
  rw [Rule.ofName_eq_reference_iff] at rule
  unfold entity?
  simp only
  rw [if_neg noLink, if_pos rule]

private theorem entity?_of_related {text : Text}
    (noLink : ¬ hasPart "://".toList text.behindWord.skipBlanks.word = true)
    (rule : Rule.ofName text.word = .related) :
    text.entity? = some ("> ".toList, text.behindWord.skipBlanks.word) := by
  have other : text.word ≠ "ref".toList := by
    rw [ne_eq, ← Rule.ofName_eq_reference_iff, rule]
    decide
  rw [Rule.ofName_eq_related_iff] at rule
  unfold entity?
  simp only
  rw [if_neg noLink, if_neg other, if_pos rule]

private theorem entity?_of_other {text : Text}
    (noReference : Rule.ofName text.word ≠ .reference)
    (noRelated : Rule.ofName text.word ≠ .related) : text.entity? = none := by
  rw [ne_eq, Rule.ofName_eq_reference_iff] at noReference
  rw [ne_eq, Rule.ofName_eq_related_iff] at noRelated
  unfold entity?
  simp only
  rw [if_neg noReference, if_neg noRelated, ite_self]

/-- What a tag writes behind the heading of its section, in two styles. -/
private theorem alikeBut_of_read {text rest : Text} {argument : Argument}
    (read : (Rule.ofName text.word).read text.behindWord.skipBlanks =
      .ok (argument, rest))
    (mention : Mention) (first second : ReferenceStyle) :
    AlikeBut text.entity? first second
      ((Rule.ofName text.word).fragment? mention first argument).toList
      ((Rule.ofName text.word).fragment? mention second argument).toList := by
  unfold AlikeBut
  cases rule : Rule.ofName text.word with
  | reference =>
      rw [rule] at read
      cases read
      by_cases link : hasPart "://".toList text.behindWord.skipBlanks.word
      · rw [entity?_of_link link]
        simp only [Rule.fragment?, Argument.text,
          ReferenceStyle.reference_of_link link first second]
      · rw [entity?_of_reference link rule]
        simp only [Rule.fragment?, Argument.text,
          ReferenceStyle.reference_of_entity link, List.nil_append,
          Option.toList_some, and_self]
  | related =>
      rw [rule] at read
      cases read
      by_cases link : hasPart "://".toList text.behindWord.skipBlanks.word
      · rw [entity?_of_link link]
        simp only [Rule.fragment?, Argument.text,
          ReferenceStyle.reference_of_link link first second]
      · rw [entity?_of_related link rule]
        simp only [Rule.fragment?, Argument.text,
          ReferenceStyle.reference_of_entity link, Option.toList_some, and_self]
  | parameter | returnValue | span | returned | lead | silent | verbatim =>
      rw [entity?_of_other (by rw [rule]; exact Rule.noConfusion)
        (by rw [rule]; exact Rule.noConfusion)]
      rfl

private theorem entity?_of_read_error {text : Text} {fault : AttributeFault}
    (failed : (Rule.ofName text.word).read text.behindWord.skipBlanks =
      .error fault) : text.entity? = none := by
  apply entity?_of_other
  · intro rule
    rw [rule] at failed
    cases failed
  · intro rule
    rw [rule] at failed
    cases failed

end Text

namespace Session

def body (rule : Rule) (mention : Mention) (style : ReferenceStyle)
    (read : Except AttributeFault Argument) : List Text :=
  match read with
  | .error _ => []
  | .ok argument => (rule.fragment? mention style argument).toList

private theorem applyRule_fst (session : Session) (rule : Rule)
    (mention : Mention) (style : ReferenceStyle) :
    (session.applyRule rule mention style).1 =
      (session.cursor.readArgument rule).1.map fun _ => () := by
  unfold applyRule
  cases reading : session.cursor.readArgument rule with
  | mk outcome after => cases outcome <;> rfl

private theorem fragments_applyRule_eq (session : Session) (rule : Rule)
    (mention : Mention) (style : ReferenceStyle) :
    (session.applyRule rule mention style).2.output.fragments =
      session.output.fragments ++
        Section.announced session.output.sections.toFinset rule.opens? ++
          body rule mention style (session.cursor.readArgument rule).1 := by
  rw [← Output.fragments_opening]
  unfold applyRule
  cases reading : session.cursor.readArgument rule with
  | mk outcome after =>
      cases outcome with
      | error fault => exact (List.append_nil _).symm
      | ok argument =>
          simp only [body]
          cases rule.fragment? mention style argument with
          | none => exact (List.append_nil _).symm
          | some fragment => exact Output.fragments_emit _ fragment

def argumentAt (cursor : Cursor) : Except AttributeFault Argument × Cursor :=
  cursor.readWord.2.skipBlanks.readArgument (Rule.ofName cursor.ahead.word)

private theorem alikeBut_body (cursor : Cursor) (mention : Mention)
    (first second : ReferenceStyle) :
    AlikeBut cursor.ahead.entity? first second
      (body (Rule.ofName cursor.ahead.word) mention first (argumentAt cursor).1)
      (body (Rule.ofName cursor.ahead.word) mention second
        (argumentAt cursor).1) := by
  have read := view_readArgument_behind_tag cursor
  change Cursor.view (argumentAt cursor) = _ at read
  cases reading : argumentAt cursor with
  | mk outcome after =>
      rw [reading] at read
      cases outcome with
      | error fault =>
          have noReference := Text.entity?_of_read_error read.symm
          unfold AlikeBut
          rw [noReference]
          rfl
      | ok argument =>
          exact Text.alikeBut_of_read read.symm mention first second

private theorem fragments_dispatch (session : Session) (introducer : Text)
    (style : ReferenceStyle) :
    (session.dispatch introducer style).2.output.fragments =
      session.output.fragments ++
        Section.announced session.output.sections.toFinset
          (Section.ofTag? session.cursor.ahead.word) ++
          body (Rule.ofName session.cursor.ahead.word)
            ⟨introducer, session.cursor.ahead.word⟩ style
            (argumentAt session.cursor).1 := by
  rw [← Rule.opens?_ofName]
  exact fragments_applyRule_eq
    ⟨session.cursor.readWord.2.skipBlanks, session.output⟩ _ _ _

/-- A dispatch goes as its cursor alone says; what it adds is a heading that is
not there yet, and then the same in every style but for a reference that is no
link. -/
theorem dispatch_alike (cursor : Cursor) (introducer : Text)
    (before other : Output) (first second : ReferenceStyle) :
    (dispatch ⟨cursor, before⟩ introducer first).1 =
        (dispatch ⟨cursor, other⟩ introducer second).1 ∧
      (dispatch ⟨cursor, before⟩ introducer first).2.cursor =
        (dispatch ⟨cursor, other⟩ introducer second).2.cursor ∧
      ∃ hereBody thereBody : List Text,
        (dispatch ⟨cursor, before⟩ introducer first).2.output.fragments =
            before.fragments ++
              Section.announced before.sections.toFinset
                (Section.ofTag? cursor.ahead.word) ++ hereBody ∧
          (dispatch ⟨cursor, other⟩ introducer second).2.output.fragments =
            other.fragments ++
              Section.announced other.sections.toFinset
                (Section.ofTag? cursor.ahead.word) ++ thereBody ∧
          AlikeBut cursor.ahead.entity? first second hereBody thereBody := by
  refine ⟨?_, ?_, _, _, fragments_dispatch ⟨cursor, before⟩ introducer first,
    fragments_dispatch ⟨cursor, other⟩ introducer second,
    alikeBut_body cursor _ first second⟩
  · unfold dispatch
    rw [applyRule_fst, applyRule_fst]
  · unfold dispatch
    rw [cursor_applyRule, cursor_applyRule]

end Session

private theorem Cursor.entity?_of_tag {cursor : Cursor} {introducer : Char}
    {behind : Text} (ahead : cursor.ahead = introducer :: behind)
    (tagged : isIntroducer introducer = true) :
    cursor.entity? = behind.entity? := by
  rw [entity?, ahead]
  exact if_pos tagged

private theorem Cursor.entity?_of_plain {cursor : Cursor} {character : Char}
    {behind : Text} (ahead : cursor.ahead = character :: behind)
    (plain : isIntroducer character = false) : cursor.entity? = none := by
  rw [entity?, ahead]
  exact if_neg (by rw [plain]; exact Bool.false_ne_true)

/-! ### Steps and runs -/

namespace Session

/-- Two sessions at one place of a comment, with the same sections open. -/
structure InStep (here there : Session) : Prop where
  cursor : here.cursor = there.cursor
  sections : ∀ opened : Section,
    opened ∈ here.output.sections ↔ opened ∈ there.output.sections

private theorem writing_of_fragments {cursor after : Cursor}
    {output next : Output}
    {added : List Text} (grown : next.fragments = output.fragments ++ added) :
    writing ⟨cursor, output⟩ ⟨after, next⟩ = ⟨cursor, after, added⟩ := by
  unfold writing
  dsimp only
  rw [grown, List.drop_left]

private theorem writing_dispatch {cursor : Cursor} {introducer : Char}
    {behind : Text} {before other : Output}
    (ahead : cursor.ahead = introducer :: behind)
    (tagged : isIntroducer introducer = true)
    (sections : ∀ opened : Section,
      opened ∈ before.sections ↔ opened ∈ other.sections)
    (first second : ReferenceStyle) :
    Writing.Alike first second
      (writing ⟨cursor, before⟩
        (dispatch ⟨cursor.forward 1, before⟩ [introducer] first).2)
      (writing ⟨cursor, other⟩
        (dispatch ⟨cursor.forward 1, other⟩ [introducer] second).2) := by
  obtain ⟨-, stop, hereBody, thereBody, here, there, same⟩ :=
    dispatch_alike (cursor.forward 1) [introducer] before other first second
  have headings : before.sections.toFinset = other.sections.toFinset := by
    ext opened
    rw [List.mem_toFinset, List.mem_toFinset, sections opened]
  rw [List.append_assoc] at here there
  rw [Cursor.ahead_forward_one ahead, ← Cursor.entity?_of_tag ahead tagged]
    at same
  rw [writing_of_fragments here, writing_of_fragments there, headings]
  exact ⟨rfl, stop, _, hereBody, thereBody, rfl, rfl, same⟩

private theorem convertNext?_of_copied {cursor : Cursor} {character : Char}
    {behind : Text} (ahead : cursor.ahead = character :: behind)
    (plain : isIntroducer character = false) (output : Output)
    (style : ReferenceStyle) :
    convertNext? ⟨cursor, output⟩ style =
      some (.ok (),
        ⟨if character = '\n' then (cursor.forward 1).skipBlanks
          else cursor.forward 1, output.emit [character]⟩) := by
  unfold convertNext?
  rw [Cursor.advance, Cursor.peek?, ahead, List.head?_cons]
  simp only [plain, Bool.false_eq_true, if_false]
  split <;> rfl

/-- Sessions in step end, fail or go on alike, and stay in step. -/
theorem InStep.convertNext? {here there : Session} (together : InStep here there)
    (first second : ReferenceStyle) :
    (here.convertNext? first = none ∧ there.convertNext? second = none) ∨
      ∃ (outcome : Except AttributeFault Unit) (next other : Session),
        here.convertNext? first = some (outcome, next) ∧
          there.convertNext? second = some (outcome, other) ∧
          InStep next other ∧
          Writing.Alike first second (here.writing next)
            (there.writing other) := by
  obtain ⟨cursor, before⟩ := here
  obtain ⟨place, other⟩ := there
  obtain rfl : cursor = place := together.cursor
  have sections := together.sections
  cases ahead : cursor.ahead with
  | nil =>
      exact .inl ⟨convertNext?_eq_none_iff.mpr ahead,
        convertNext?_eq_none_iff.mpr ahead⟩
  | cons character behind =>
      right
      cases tagged : isIntroducer character with
      | false =>
          have here := convertNext?_of_copied ahead tagged before first
          have there := convertNext?_of_copied ahead tagged other second
          refine ⟨_, _, _, here, there, ⟨rfl, ?_⟩, ?_⟩
          · intro opened
            rw [Output.sections_emit, Output.sections_emit, List.mem_append,
              List.mem_append, sections opened]
          · rw [writing_of_fragments (Output.fragments_emit before _),
              writing_of_fragments (Output.fragments_emit other _)]
            refine ⟨rfl, rfl, [], _, _, rfl, rfl, ?_⟩
            unfold AlikeBut
            rw [Cursor.entity?_of_plain ahead tagged]
      | true =>
          obtain ⟨outcome, stop, -⟩ :=
            dispatch_alike (cursor.forward 1) [character] before other first
              second
          have here : Session.convertNext? ⟨cursor, before⟩ first =
              some (dispatch ⟨cursor.forward 1, before⟩ [character] first) :=
            convertNext?_of_tag first ahead tagged
          have there : Session.convertNext? ⟨cursor, other⟩ second =
              some ((dispatch ⟨cursor.forward 1, before⟩ [character] first).1,
                (dispatch ⟨cursor.forward 1, other⟩ [character] second).2) := by
            rw [outcome]
            exact convertNext?_of_tag second ahead tagged
          refine ⟨_, _, _, here, there, ⟨stop, ?_⟩,
            writing_dispatch ahead tagged sections first second⟩
          · intro opened
            rw [(grows_convertNext? here).mem_sections_iff opened,
              (grows_convertNext? there).mem_sections_iff opened,
              sections opened]
            rfl

private theorem writings_of_none {session : Session} {style : ReferenceStyle}
    (taken : session.convertNext? style = none) :
    session.writings style = [] := by
  rw [writings]
  split <;> simp_all

private theorem writings_of_error {session stopped : Session}
    {style : ReferenceStyle} {fault : AttributeFault}
    (taken : session.convertNext? style = some (.error fault, stopped)) :
    session.writings style = [session.writing stopped] := by
  rw [writings]
  split <;> simp_all

private theorem writings_of_ok {session next : Session} {style : ReferenceStyle}
    (taken : session.convertNext? style = some (.ok (), next)) :
    session.writings style = session.writing next :: next.writings style := by
  rw [writings]
  split <;> simp_all

theorem fragments_of_drain {session : Session} {style : ReferenceStyle}
    {output : Output} (drained : session.drain style = .ok output) :
    output.fragments = session.output.fragments ++
      (session.writings style).flatMap Writing.added := by
  induction session using drain.induct style with
  | case1 session taken =>
      rw [drain_of_convertNext?_eq_none taken] at drained
      cases drained
      rw [writings_of_none taken, List.flatMap_nil, List.append_nil]
  | case2 session fault stopped taken =>
      rw [drain_of_convertNext?_error taken] at drained
      cases drained
  | case3 session next taken shorter ih =>
      rw [drain_of_convertNext?_ok taken] at drained
      obtain ⟨item, -, written⟩ := next?_of_convertNext?_ok taken
      have grown := Output.fragments_write session.output style item
      rw [← written] at grown
      rw [writings_of_ok taken, writing_of_fragments grown, List.flatMap_cons,
        ← List.append_assoc, ← grown]
      exact ih drained

/-- Conversions that start in step end alike, and their steps are alike. -/
theorem InStep.drain {here there : Session} (together : InStep here there)
    (first second : ReferenceStyle) :
    ((∃ fault : AttributeFault, here.drain first = .error fault ∧
          there.drain second = .error fault) ∨
        ∃ output other : Output, here.drain first = .ok output ∧
          there.drain second = .ok other) ∧
      List.Forall₂ (Writing.Alike first second) (here.writings first)
        (there.writings second) := by
  induction here using drain.induct first generalizing there with
  | case1 here taken =>
      rcases together.convertNext? first second with ⟨-, ended⟩ |
        ⟨outcome, next, other, goes, -⟩
      · rw [drain_of_convertNext?_eq_none taken,
          drain_of_convertNext?_eq_none ended, writings_of_none taken,
          writings_of_none ended]
        exact ⟨.inr ⟨_, _, rfl, rfl⟩, .nil⟩
      · rw [taken] at goes
        cases goes
  | case2 here fault stopped taken =>
      rcases together.convertNext? first second with ⟨ended, -⟩ |
        ⟨outcome, next, other, goes, alike, -, written⟩
      · rw [taken] at ended
        cases ended
      · rw [taken] at goes
        cases goes
        rw [drain_of_convertNext?_error taken,
          drain_of_convertNext?_error alike, writings_of_error taken,
          writings_of_error alike]
        exact ⟨.inl ⟨fault, rfl, rfl⟩, .cons written .nil⟩
  | case3 here next taken shorter ih =>
      rcases together.convertNext? first second with ⟨ended, -⟩ |
        ⟨outcome, session, other, goes, alike, further, written⟩
      · rw [taken] at ended
        cases ended
      · rw [taken] at goes
        cases goes
        rw [drain_of_convertNext?_ok taken, drain_of_convertNext?_ok alike,
          writings_of_ok taken, writings_of_ok alike]
        obtain ⟨ends, steps⟩ := ih further
        exact ⟨ends, .cons written steps⟩

private theorem Writing.Alike.length_eq {first second : ReferenceStyle}
    {here there : Writing} (alike : Writing.Alike first second here there) :
    here.added.length = there.added.length := by
  obtain ⟨heading, hereBody, thereBody, added, other, same⟩ := alike.added
  have bodies : hereBody.length = thereBody.length := by
    unfold AlikeBut at same
    split at same
    · rw [same]
    · rw [same.1, same.2]
      rfl
  rw [added, other, List.length_append, List.length_append, bodies]

private theorem length_flatMap_added {first second : ReferenceStyle}
    {here there : List Writing}
    (alike : List.Forall₂ (Writing.Alike first second) here there) :
    (here.flatMap Writing.added).length =
      (there.flatMap Writing.added).length := by
  induction alike with
  | nil => rfl
  | cons step steps ih =>
      rw [List.flatMap_cons, List.flatMap_cons, List.length_append,
        List.length_append, step.length_eq, ih]

end Session

/-- The style of references shows in references alone, and what was written has
no part in what is read.  A comment converts alike in both styles, step by
step; and a dispatch anywhere goes the same way whatever the outputs and the
styles, an unknown one too. -/
theorem style_shows_in_references_only :
    (∀ comment : Text,
      ((∃ fault : AttributeFault, convert .code comment = .error fault ∧
            convert .intraDoc comment = .error fault) ∨
          ∃ plain linked : Output,
            convert .code comment = .ok plain.render ∧
              convert .intraDoc comment = .ok linked.render ∧
              plain.fragments = ((Session.started comment).writings
                .code).flatMap Session.Writing.added ∧
              linked.fragments = ((Session.started comment).writings
                .intraDoc).flatMap Session.Writing.added ∧
              plain.fragments.length = linked.fragments.length) ∧
        List.Forall₂ (Session.Writing.Alike .code .intraDoc)
          ((Session.started comment).writings .code)
          ((Session.started comment).writings .intraDoc)) ∧
    ∀ (cursor : Cursor) (introducer firstName secondName : Text)
      (before other : Output),
      let first := ReferenceStyle.ofNameD firstName
      let second := ReferenceStyle.ofNameD secondName
      let here := Session.dispatch ⟨cursor, before⟩ introducer first
      let there := Session.dispatch ⟨cursor, other⟩ introducer second
      here.1 = there.1 ∧ here.2.cursor = there.2.cursor ∧
        ∃ hereBody thereBody : List Text,
          here.2.output.fragments = before.fragments ++
              Section.announced before.sections.toFinset
                (Section.ofTag? cursor.ahead.word) ++ hereBody ∧
            there.2.output.fragments = other.fragments ++
              Section.announced other.sections.toFinset
                (Section.ofTag? cursor.ahead.word) ++ thereBody ∧
            AlikeBut cursor.ahead.entity? first second hereBody thereBody := by
  constructor
  · intro comment
    have together : Session.InStep (Session.started comment)
        (Session.started comment) :=
      ⟨rfl, fun _ => Iff.rfl⟩
    obtain ⟨⟨fault, plain, linked⟩ | ⟨plain, linked, here, there⟩, steps⟩ :=
      together.drain .code .intraDoc
    · refine ⟨.inl ⟨fault, ?_, ?_⟩, steps⟩
      · exact congrArg (Except.map Output.render) plain
      · exact congrArg (Except.map Output.render) linked
    · have written := Session.fragments_of_drain here
      have other := Session.fragments_of_drain there
      refine ⟨.inr ⟨plain, linked, ?_, ?_, written, other, ?_⟩, steps⟩
      · exact congrArg (Except.map Output.render) here
      · exact congrArg (Except.map Output.render) there
      · rw [written, other]
        exact Session.length_flatMap_added steps
  · intro cursor introducer firstName secondName before other first second
    exact Session.dispatch_alike cursor introducer before other first second

end DocTag
