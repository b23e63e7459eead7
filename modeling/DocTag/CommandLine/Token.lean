import DocTag.Batch
import DocTag.Text.Alphanumeric
import DocTag.Text.Quoted
/-!
The options of the command line, and what each of its arguments is, told by
its own text alone.

The first `--` ends the options: what stands behind it is operands.  Long
options may be cut short as long as one option only can be meant.
-/

namespace DocTag

inductive Switch where
  | help
  | output
  | fallback
  | intraDocLinks
  | strict
  | version
deriving DecidableEq, Repr

namespace Switch

def all : List Switch :=
  [.help, .output, .fallback, .intraDocLinks, .strict, .version]

def letter? : Switch → Option Char
  | .help => some 'h'
  | .output => some 'o'
  | .version => some 'V'
  | .fallback | .intraDocLinks | .strict => none

def long : Switch → Text
  | .help => "--help".toList
  | .output => "--output".toList
  | .fallback => "--fallback".toList
  | .intraDocLinks => "--intra-doc-links".toList
  | .strict => "--strict".toList
  | .version => "--version".toList

def short? (switch : Switch) : Option Text :=
  switch.letter?.map fun letter => ['-', letter]

def spellings (switch : Switch) : List Text :=
  switch.short?.toList ++ [switch.long]

def label (switch : Switch) : Text := Text.join ['/'] switch.spellings

def valueName? : Switch → Option Text
  | .output => some "OUTPUT".toList
  | .fallback =>
      some ("\x7b".toList ++ Text.join [','] (FallbackMode.all.map FallbackMode.name)
        ++ "\x7d".toList)
  | .help | .intraDocLinks | .strict | .version => none

def takesValue (switch : Switch) : Bool := switch.valueName?.isSome

def withValueName (switch : Switch) (spelling : Text) : Text :=
  switch.valueName?.elim spelling fun name => spelling ++ ' ' :: name

def description : Switch → Text
  | .help => "show this help message and exit".toList
  | .output => "Output markdown file (default: stdout)".toList
  | .fallback =>
      ("What to emit for a comment that fails to convert " ++
        "(default: drop, env DOXMD_FALLBACK)").toList
  | .intraDocLinks =>
      ("Render @ref/@see targets as [`name`] intra-doc links " ++
        "instead of inline code").toList
  | .strict => "Exit with status 1 when any comment fails to convert".toList
  | .version => "show program's version number and exit".toList

def ofLetter? (letter : Char) : Option Switch :=
  all.find? fun switch => switch.letter? = some letter

end Switch

inductive UsageFault where
  | ambiguous (argument : Text) (candidates : List Switch)
  | valueMissing (switch : Switch)
  | valueRefused (switch : Switch) (value : Text)
  | valueUnknown (switch : Switch) (value : Text) (choices : List Text)
  | unrecognized (arguments : List Text)
deriving DecidableEq, Repr

namespace UsageFault

def about (switch : Switch) (problem : Text) : Text :=
  "argument ".toList ++ switch.label ++ ": ".toList ++ problem

def message : UsageFault → Text
  | .ambiguous argument candidates =>
      "ambiguous option: ".toList ++ argument ++ " could match ".toList ++
        Text.join ", ".toList (candidates.map Switch.long)
  | .valueMissing switch => about switch "expected one argument".toList
  | .valueRefused switch value =>
      about switch ("ignored explicit argument ".toList ++ value.quoted)
  | .valueUnknown switch value choices =>
      about switch ("invalid choice: ".toList ++ value.quoted ++
        " (choose from ".toList ++
        Text.join ", ".toList (choices.map Text.quoted) ++ ")".toList)
  | .unrecognized arguments =>
      "unrecognized arguments: ".toList ++ Text.join [' '] arguments

end UsageFault

inductive Token where
  | operand (text : Text)
  | separator
  /-- An option by its letter, with the text attached to the letter. -/
  | short (switch : Switch) (attached? : Option Text)
  /-- An option by its word, with the value behind an equals sign. -/
  | long (switch : Switch) (value? : Option Text)
  /-- What looks like an option and is none. -/
  | unknown (text : Text)
deriving DecidableEq, Repr

namespace Token

def separatorText : Text := ['-', '-']

def isNumeral : Text → Bool
  | [] => false
  | text =>
      let fraction := text.dropWhile Text.isDigit
      match fraction with
      | [] => true
      | '.' :: decimals => !decimals.isEmpty && decimals.all Text.isDigit
      | _ => false

/-- Whether the text behind a dash makes it a negative number.  One line feed
at the end is overlooked. -/
def isNegativeNumeral (text : Text) : Bool :=
  isNumeral (if text.getLast? = some '\n' then text.dropLast else text)

def splitEquals (text : Text) : Text × Option Text :=
  match text.dropWhile (· ≠ '=') with
  | [] => (text, none)
  | _ :: value => (text.takeWhile (· ≠ '='), some value)

/-- The text attached to a letter, given all that stands behind it.  An equals
sign in front only announces the text. -/
def attachment? : Text → Option Text
  | [] => none
  | '=' :: attached => some attached
  | attached => some attached

/-- The options that a word may stand for: the one it spells out, or else all
that it begins to spell. -/
def candidates (word : Text) : List Switch :=
  match Switch.all.find? fun switch => switch.long = word with
  | some switch => [switch]
  | none => Switch.all.filter fun switch => word.isPrefixOf switch.long

def ofOther (text : Text) : Token :=
  if isNegativeNumeral text.tail || text.contains ' ' then .operand text
  else .unknown text

def ofText (text : Text) : Except UsageFault Token :=
  match text with
  | '-' :: '-' :: _ =>
      let (word, value?) := splitEquals text
      match candidates word with
      | [] => .ok (ofOther text)
      | [switch] => .ok (.long switch value?)
      | several => .error (.ambiguous text several)
  | '-' :: letter :: behind =>
      match Switch.ofLetter? letter with
      | some switch => .ok (.short switch (attachment? behind))
      | none => .ok (ofOther text)
  | _ => .ok (.operand text)

/-- The tokens of a command line.  An ambiguous argument is refused wherever
it stands before the separator. -/
def ofTexts : List Text → Except UsageFault (List Token)
  | [] => .ok []
  | text :: rest =>
      if text = separatorText then .ok (.separator :: rest.map .operand)
      else do
        let token ← ofText text
        let tokens ← ofTexts rest
        return token :: tokens

end Token

end DocTag
