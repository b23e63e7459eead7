import DocTag.Tag.Rule
/-!
A cursor and an output that live through any number of steps, and the
conversion of one comment, which is a session that runs to the end of its text.

A step that fails keeps what it has done: the section its rule opened stays
open, and the characters it passed stay passed.  In a conversion leading blanks
vanish, and so do the blanks behind a line break; a tag is dispatched; every
other character is copied.  The first attribute list that is broken fails the
whole comment.
-/

namespace DocTag

structure Session where
  cursor : Cursor
  output : Output
deriving DecidableEq, Repr

namespace Session

def ofText (text : Text) : Session := ⟨Cursor.ofText text, {}⟩

def applyRule (session : Session) (rule : Rule) (mention : Mention)
    (style : ReferenceStyle) : Except AttributeFault Unit × Session :=
  let opened := (rule.opens?).elim session.output session.output.openSection
  match session.cursor.readArgument rule with
  | (.error fault, stopped) => (.error fault, ⟨stopped, opened⟩)
  | (.ok argument, after) =>
      (.ok (),
        ⟨after, (rule.fragment? mention style argument).elim opened opened.emit⟩)

def dispatch (session : Session) (introducer : Text)
    (style : ReferenceStyle) : Except AttributeFault Unit × Session :=
  let (name, after) := session.cursor.readWord
  applyRule ⟨after.skipBlanks, session.output⟩ (Rule.ofName name)
    ⟨introducer, name⟩ style

theorem cursor_applyRule (session : Session) (rule : Rule) (mention : Mention)
    (style : ReferenceStyle) :
    (session.applyRule rule mention style).2.cursor =
      (session.cursor.readArgument rule).2 := by
  unfold applyRule
  split <;> simp_all

theorem length_ahead_dispatch_le (session : Session) (introducer : Text)
    (style : ReferenceStyle) :
    (session.dispatch introducer style).2.cursor.ahead.length ≤
      session.cursor.ahead.length := by
  unfold dispatch
  rw [cursor_applyRule]
  exact Nat.le_trans (Cursor.length_ahead_readArgument_le _ _)
    (Nat.le_trans (Cursor.length_ahead_skipBlanks_le _)
      session.cursor.length_ahead_readWord_le)

end Session

def introducers : List Char := ['@', '\\']

def isIntroducer (character : Char) : Bool := introducers.contains character

namespace Session

/-- Takes the next character and what belongs to it; nothing is left to do at
the end of the text. -/
def convertNext? (session : Session) (style : ReferenceStyle) :
    Option (Except AttributeFault Unit × Session) :=
  match session.cursor.advance with
  | (none, _) => none
  | (some character, after) =>
      if isIntroducer character then
        some (dispatch ⟨after, session.output⟩ [character] style)
      else if character = '\n' then
        some (.ok (), ⟨after.skipBlanks, session.output.emit [character]⟩)
      else
        some (.ok (), ⟨after, session.output.emit [character]⟩)

theorem length_ahead_lt_of_convertNext?_eq_some {session : Session}
    {style : ReferenceStyle} {result : Except AttributeFault Unit × Session}
    (taken : session.convertNext? style = some result) :
    result.2.cursor.ahead.length < session.cursor.ahead.length := by
  obtain ⟨⟨passed, ahead⟩, output⟩ := session
  cases ahead with
  | nil => simp [convertNext?, Cursor.advance, Cursor.peek?] at taken
  | cons character rest =>
      simp only [convertNext?, Cursor.advance, Cursor.peek?,
        List.head?_cons] at taken
      split at taken
      · cases taken
        have bound := length_ahead_dispatch_le
          ⟨(Cursor.mk passed (character :: rest)).forward 1, output⟩
          [character] style
        simp only [Cursor.ahead_forward, List.drop_succ_cons,
          List.drop_zero] at bound
        exact Nat.lt_succ_of_le bound
      · split at taken <;> cases taken
        · exact Nat.lt_succ_of_le (Cursor.length_ahead_skipBlanks_le
            ((Cursor.mk passed (character :: rest)).forward 1))
        · exact Nat.lt_succ_self _

/-- Runs to the end of the text, or to the first broken attribute list. -/
def drain (session : Session) (style : ReferenceStyle) :
    Except AttributeFault Output :=
  match taken : session.convertNext? style with
  | none => .ok session.output
  | some (.error fault, _) => .error fault
  | some (.ok (), next) =>
      have := length_ahead_lt_of_convertNext?_eq_some taken
      next.drain style
termination_by session.cursor.ahead.length

end Session

def convert (style : ReferenceStyle) (comment : Text) :
    Except AttributeFault Text :=
  let start : Session := ⟨(Cursor.ofText comment).skipBlanks, {}⟩
  (start.drain style).map Output.render

end DocTag
