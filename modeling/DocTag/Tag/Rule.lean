import DocTag.Comment.Cursor
import DocTag.Markdown
/-!
The rules behind the tags.

A rule acts in three parts that are kept apart here: the section it opens, the
argument it reads, and the fragment it emits.  The first and the last never
look at the comment, and reading never looks at the output.
-/

namespace DocTag

inductive Rule where
  /-- A bullet for an argument, with its attribute list if it has one. -/
  | parameter
  /-- A bullet for a value that may be returned. -/
  | returnValue
  /-- A word between two equal marks. -/
  | span (mark : Text)
  /-- A reference in running text. -/
  | reference
  /-- A quoted reference in the section of references. -/
  | related
  /-- The section on what is returned. -/
  | returned
  /-- Markup in front of the text that follows. -/
  | lead (markup : Text)
  /-- Nothing at all. -/
  | silent
  /-- The tag itself, for a name that has no rule. -/
  | verbatim
deriving DecidableEq, Repr

namespace Rule

def table : List (Text × Rule) :=
  [("param".toList, .parameter),
    ("retval".toList, .returnValue),
    ("c".toList, .span "`".toList),
    ("p".toList, .span "`".toList),
    ("ref".toList, .reference),
    ("see".toList, .related),
    ("sa".toList, .related),
    ("a".toList, .span "_".toList),
    ("e".toList, .span "_".toList),
    ("em".toList, .span "_".toList),
    ("b".toList, .span "**".toList),
    ("note".toList, .lead "> **Note** ".toList),
    ("since".toList, .lead "> **Since** ".toList),
    ("deprecated".toList, .lead "> **Deprecated** ".toList),
    ("remark".toList, .lead "> ".toList),
    ("remarks".toList, .lead "> ".toList),
    ("li".toList, .lead "- ".toList),
    ("par".toList, .lead "# ".toList),
    ("returns".toList, .returned),
    ("return".toList, .returned),
    ("result".toList, .returned),
    -- Grouping leaves no mark.
    ("\x7b".toList, .silent),
    ("\x7d".toList, .silent),
    ("brief".toList, .silent),
    ("short".toList, .silent)]

def ofName? (name : Text) : Option Rule := table.lookup name

def ofName (name : Text) : Rule := (ofName? name).getD .verbatim

/-- The section a rule opens before it reads its argument. -/
def opens? : Rule → Option Section
  | .parameter => some .arguments
  | .related => some .seeAlso
  | .returned => some .returns
  | _ => none

end Rule

inductive Argument where
  | absent
  | word (name : Text)
  | annotated (attributes name : Text)
deriving DecidableEq, Repr

namespace Argument

def text : Argument → Text
  | .absent => []
  | .word name => name
  | .annotated _ name => name

def annotation : Argument → Text
  | .annotated attributes _ => " \\[".toList ++ attributes ++ "\\]".toList
  | _ => []

end Argument

/-- Reads the name of an argument.  Where no word stands, an attribute list
must, and the name follows it. -/
def Cursor.readParameter (cursor : Cursor) :
    Except AttributeFault Argument × Cursor :=
  match cursor.readWord with
  | ([], start) =>
      match start.readAttributes with
      | (.error fault, stopped) => (.error fault, stopped)
      | (.ok attributes, closed) =>
          let (word, after) := closed.skipBlanks.readWord
          (.ok (.annotated attributes word), after)
  | (word, after) => (.ok (.word word), after)

def Cursor.readArgument (cursor : Cursor) :
    Rule → Except AttributeFault Argument × Cursor
  | .parameter => cursor.readParameter
  | .returnValue | .span _ | .reference | .related =>
      let (word, after) := cursor.readWord
      (.ok (.word word), after)
  | .returned | .lead _ | .silent | .verbatim => (.ok .absent, cursor)

structure Mention where
  introducer : Text
  name : Text
deriving DecidableEq, Repr

def Rule.fragment? (rule : Rule) (mention : Mention) (style : ReferenceStyle)
    (argument : Argument) : Option Text :=
  match rule with
  | .parameter =>
      some ("* `".toList ++ argument.text ++ "`".toList ++
        argument.annotation ++ " -".toList)
  | .returnValue => some ("* `".toList ++ argument.text ++ "`".toList)
  | .span mark => some (mark ++ argument.text ++ mark)
  | .reference => some (style.reference argument.text)
  | .related => some ("> ".toList ++ style.reference argument.text)
  | .lead markup => some markup
  | .verbatim => some (mention.introducer ++ mention.name ++ " ".toList)
  | .returned | .silent => none

theorem Cursor.length_ahead_readParameter_le (cursor : Cursor) :
    cursor.readParameter.2.ahead.length ≤ cursor.ahead.length := by
  have start := cursor.length_ahead_readWord_le
  have list := cursor.readWord.2.length_ahead_readAttributes_le
  unfold readParameter
  split
  · next stopped hWord =>
      rw [hWord] at start list
      split
      · next hList =>
          rw [hList] at list
          exact Nat.le_trans list start
      · next attributes closed hList =>
          rw [hList] at list
          have name := closed.skipBlanks.length_ahead_readWord_le
          have skip := closed.length_ahead_skipBlanks_le
          exact Nat.le_trans name
            (Nat.le_trans skip (Nat.le_trans list start))
  · next hWord =>
      rw [hWord] at start
      exact start

theorem Cursor.length_ahead_readArgument_le (cursor : Cursor) (rule : Rule) :
    (cursor.readArgument rule).2.ahead.length ≤ cursor.ahead.length := by
  cases rule with
  | parameter => exact cursor.length_ahead_readParameter_le
  | returnValue | span | reference | related =>
      exact cursor.length_ahead_readWord_le
  | returned | lead | silent | verbatim => exact Nat.le_refl _

end DocTag
