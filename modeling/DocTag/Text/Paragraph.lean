import DocTag.Text.Alphanumeric
/-!
Paragraphs: where a text may be cut, and how its parts are set into lines.

A text may be cut around spaces, behind the hyphen of a hyphenated word, and
around a dash between two words; whether it may be cut at a place is told by
what stands on the two sides of that place.

A part goes on the line at hand if it fits there, and opens a new line if it
does not.  A part too long for any line is cut where the line ends, or behind
the last hyphen before that.  Lines neither start nor end with white space on
account of a cut.

Lists of words that need no cuts are filled instead: a word goes on the line at
hand if it fits, and opens a new line if it does not.
-/

namespace DocTag
namespace Text

/-- Fills words into lines of at most `width` columns.  The next word would
start at column `start`; every further line starts at column `indent`.  A word
too long for any line has one of its own. -/
def fillFrom (width indent : Nat) (start : Nat) (line : List Text) :
    List Text → List (List Text)
  | [] => if line.isEmpty then [] else [line]
  | word :: words =>
      if !line.isEmpty && width < start + word.length then
        line :: fillFrom width indent (indent + word.length + 1) [word] words
      else
        fillFrom width indent (start + word.length + 1) (line ++ [word]) words

def fill (width indent : Nat) (words : List Text) : List Text :=
  (fillFrom width indent indent [] words).map fun line =>
    List.replicate indent ' ' ++ join [' '] line

def wordsBetween (separates : Char → Bool) (text : Text) : List Text :=
  (text.splitBy fun left right => separates left == separates right).filter
    fun piece => !piece.any separates

def unlines (lines : List Text) : Text :=
  lines.flatMap fun line => line ++ ['\n']

def isWordCharacter (character : Char) : Bool :=
  character = '_' || isAlphanumeric character

def isWordLetter (character : Char) : Bool :=
  isWordCharacter character && !isDigit character

def dashPunctuation : List Char :=
  ['!', '\x22', '\x27', '&', '.', ',', '?']

def admitsDash (character : Char) : Bool :=
  isWordCharacter character || dashPunctuation.contains character

def startsWithPair : Text → Bool
  | first :: '-' :: second :: _ => isWordLetter first && isWordLetter second
  | first :: second :: _ => isWordLetter first && isWordLetter second
  | _ => false

def afterDash? : Text → Option Text
  | '-' :: '-' :: rest => some (rest.dropWhile (· = '-'))
  | _ => none

/-- Whether the text may be cut between what stands ahead and what stands
behind, which is given from its end. -/
def isCut (behind ahead : Text) : Bool :=
  let space := (behind.head? == some ' ') != (ahead.head? == some ' ')
  let hyphen := behind.head? == some '-' && startsWithPair behind.tail &&
    startsWithPair ahead
  let dashAhead := behind.head?.any admitsDash &&
    (afterDash? ahead).any fun rest => rest.head?.any isWordCharacter
  let dashBehind := ahead.head?.any isWordCharacter &&
    (afterDash? behind).any fun rest => rest.head?.any admitsDash
  space || hyphen || dashAhead || dashBehind

def partsFrom (behind : Text) : Text → List Text
  | [] => []
  | character :: rest =>
      match partsFrom (character :: behind) rest with
      | [] => [[character]]
      | part :: parts =>
          if isCut (character :: behind) rest then [character] :: part :: parts
          else (character :: part) :: parts

def parts (text : Text) : List Text := partsFrom [] text

/-- Cuts a part that does not fit into `room` columns: behind the last hyphen
that does fit, if more than hyphens stand up to there, or else where the room
ends. -/
def cutLong (room : Nat) (part : Text) : Text × Text :=
  let hyphenated := ((part.take room).reverse.dropWhile (· ≠ '-')).reverse
  part.splitAt
    (if hyphenated.any (· ≠ '-') then hyphenated.length else room)

def isWhite (part : Text) : Bool := part.all isSpace

def dropWhite : List Text → List Text
  | [] => []
  | part :: rest => if isWhite part then rest else part :: rest

def columns (line : List Text) : Nat := line.flatten.length

/-- How much is left to be set: all characters, and one more for each part. -/
def load (parts : List Text) : Nat := columns parts + parts.length

private theorem load_cons (part : Text) (rest : List Text) :
    load (part :: rest) = part.length + load rest + 1 := by
  simp [load, columns]; omega

private theorem load_dropWhite_le (parts : List Text) :
    load (dropWhite parts) ≤ load parts := by
  unfold dropWhite
  split
  · exact Nat.le_refl _
  · split
    · rw [load_cons]; omega
    · exact Nat.le_refl _

private theorem length_cutLong_le (room : Nat) (part : Text) :
    (cutLong room part).2.length ≤ part.length := by
  simp [cutLong, List.splitAt_eq]

private theorem length_cutLong_lt {room : Nat} {part : Text} (roomy : 0 < room)
    (long : 0 < part.length) :
    (cutLong room part).2.length < part.length := by
  simp only [cutLong, List.splitAt_eq, List.length_drop]
  split
  · next more =>
      obtain ⟨character, member, _⟩ := List.any_eq_true.mp more
      have := List.length_pos_of_mem member
      omega
  · omega

def setParts (last : Nat) (line : List Text) : List Text → List (List Text)
  | [] => [line]
  | part :: rest =>
      if columns line + part.length ≤ last + 1 then
        setParts last (line ++ [part]) rest
      else if part.length ≤ last + 1 then
        line :: setParts last [] (dropWhite (part :: rest))
      else
        let cut := cutLong (last + 1 - columns line) part
        (line ++ [cut.1]) :: setParts last [] (dropWhite (cut.2 :: rest))
termination_by parts => (load parts, columns line)
decreasing_by
  · exact Prod.Lex.left _ _ (by rw [load_cons]; omega)
  · next tight _ =>
      rcases Nat.lt_or_eq_of_le (load_dropWhite_le (part :: rest)) with
        less | same
      · exact Prod.Lex.left _ _ less
      · rw [same]
        exact Prod.Lex.right _ (by simp [columns] at *; omega)
  · next tight long =>
      have bound := load_dropWhite_le (cut.2 :: rest)
      have kept : cut.2.length ≤ part.length := length_cutLong_le _ part
      rw [load_cons] at bound
      by_cases fresh : columns line = 0
      · have shorter : cut.2.length < part.length :=
          length_cutLong_lt (by omega) (by omega)
        exact Prod.Lex.left _ _
          (Nat.lt_of_le_of_lt bound (by rw [load_cons]; omega))
      · have used : columns [] < columns line := by
          simpa [columns] using Nat.pos_of_ne_zero fresh
        rcases Nat.lt_or_eq_of_le
          (show load (dropWhite (cut.2 :: rest)) ≤ load (part :: rest) by
            rw [load_cons]; omega) with less | same
        · exact Prod.Lex.left _ _ less
        · rw [same]; exact Prod.Lex.right _ used

def closeLine (line : List Text) : Text :=
  if line.getLast?.any isWhite then line.dropLast.flatten else line.flatten

def wrap (width : Nat) (text : Text) : List Text :=
  ((setParts (width - 1) [] (parts text)).map closeLine).filter fun line =>
    !line.isEmpty

end Text
end DocTag
