import DocTag.CommandLine.Token
import DocTag.Text.Paragraph
/-!
The texts a command line answers with: usage, help, version and complaints.

They are laid out for 78 columns.  Usage lines up under the first option; a
program name that takes more than three quarters of the line stands alone.
-/

namespace DocTag
namespace Help

def width : Nat := 78

def version : Text := "0.1.0".toList

def descriptionColumn : Nat := 24

/-- Cuts a run of line feeds down to two, counting those already passed. -/
def limitBreaks (passed : Nat) : Text → Text
  | [] => []
  | '\n' :: rest =>
      if passed < 2 then '\n' :: limitBreaks (passed + 1) rest
      else limitBreaks passed rest
  | character :: rest => character :: limitBreaks 0 rest

def settle (text : Text) : Text :=
  ((limitBreaks 0 text).reverse.dropWhile (· = '\n')).reverse ++ ['\n']

def usageLead : Text := "usage: ".toList

def optionPart (switch : Switch) : Text :=
  let spelling := switch.short?.getD switch.long
  "[".toList ++ switch.withValueName spelling ++ "]".toList

def optionParts : List Text := Switch.all.map optionPart

def inputPart : Text := "[inputs ...]".toList

def usageLines (program : Text) : List Text :=
  if 4 * (usageLead.length + program.length) ≤ 3 * width then
    -- The program name is a word of the first line; the lead replaces as
    -- many columns of its indentation.
    let indent := usageLead.length + program.length + 1
    let filled := Text.fillFrom width indent usageLead.length []
      (program :: optionParts)
    let lines := filled.map (Text.join [' '])
    let inner := List.replicate indent ' '
    (lines.zipIdx.map fun (line, index) =>
      if index = 0 then usageLead ++ line else inner ++ line) ++
      [inner ++ inputPart]
  else
    let indent := usageLead.length
    (usageLead ++ program) :: Text.fill width indent optionParts ++
      Text.fill width indent [inputPart]

def usage (program : Text) : Text := settle (Text.unlines (usageLines program))

def purpose : Text :=
  ("Convert doxygen-style documentation comments (@param, \\see, ...) to " ++
    "Markdown. Each input file is one comment block; stdin is read when no " ++
    "file is given.").toList

def entry (heading description : Text) : List Text :=
  let indented := ' ' :: ' ' :: heading
  let margin := List.replicate descriptionColumn ' '
  let described := (Text.wrap (width - descriptionColumn) description).map
    fun line => margin ++ line
  if indented.length + 2 ≤ descriptionColumn then
    match described with
    | [] => [indented]
    | first :: rest =>
        (indented ++ first.drop indented.length) :: rest
  else indented :: described

def inputEntry : List Text :=
  entry "inputs".toList "Comment files to convert".toList

def switchEntry (switch : Switch) : List Text :=
  entry (Text.join ", ".toList (switch.spellings.map switch.withValueName))
    switch.description

def help (program : Text) : Text :=
  settle (Text.unlines
    (usageLines program ++ [[]] ++ Text.wrap width purpose ++
      [[], "positional arguments:".toList] ++ inputEntry ++
      [[], "options:".toList] ++ Switch.all.flatMap switchEntry))

/-- The white space of ASCII, vertical tab included. -/
def isAsciiSpace (character : Char) : Bool :=
  character = ' ' || (9 ≤ character.toNat && character.toNat ≤ 13)

def versionLine (program : Text) : Text :=
  let joined := Text.join [' ']
    (Text.wordsBetween isAsciiSpace (program ++ ' ' :: version))
  settle (Text.unlines (Text.wrap width joined.strip))

def complaint (program : Text) (fault : UsageFault) : Text :=
  usage program ++ program ++ ": error: ".toList ++ fault.message ++ ['\n']

end Help
end DocTag
