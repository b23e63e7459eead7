/-!
Texts as lists of code points, and the character classes that structure a
comment.

A comment is divided by ASCII blanks only.  Vertical tab and the blanks beyond
ASCII are ordinary text there; the wider class, the white space of Unicode, is
what texts are stripped of at both ends.  A text that was read knows one line
end only.
-/

namespace DocTag

abbrev Text := List Char

namespace Text

def blanks : List Char := ['\t', '\n', '\x0c', '\r', ' ']

/-- The characters that end a word.  Form feed is a blank and ends no word; an
opening bracket ends a word and is no blank. -/
def wordSeparators : List Char := ['\t', '\n', '\r', ' ', '[']

def isBlank (character : Char) : Bool := blanks.contains character

def isWordSeparator (character : Char) : Bool :=
  wordSeparators.contains character

def hasPart (pattern : Text) : Text → Bool
  | [] => pattern.isEmpty
  | character :: rest =>
      pattern.isPrefixOf (character :: rest) || hasPart pattern rest

def join (separator : Text) (pieces : List Text) : Text :=
  (pieces.intersperse separator).flatten

/-- The inclusive code point ranges of white space: the ASCII controls that
separate, the space, and the separators beyond ASCII. -/
def spaceRanges : List (Nat × Nat) :=
  [(0x09, 0x0D), (0x1C, 0x20), (0x85, 0x85), (0xA0, 0xA0),
    (0x1680, 0x1680), (0x2000, 0x200A), (0x2028, 0x2029), (0x202F, 0x202F),
    (0x205F, 0x205F), (0x3000, 0x3000)]

def inRanges (ranges : List (Nat × Nat)) (character : Char) : Bool :=
  ranges.any fun (low, high) => low ≤ character.toNat && character.toNat ≤ high

def isSpace (character : Char) : Bool := inRanges spaceRanges character

def stripEnd (text : Text) : Text :=
  (text.reverse.dropWhile isSpace).reverse

def strip (text : Text) : Text := stripEnd (text.dropWhile isSpace)

/-- Turns each carriage return, with the line feed behind it if there is one,
into one line feed. -/
def unifyNewlines : Text → Text
  | [] => []
  | '\r' :: '\n' :: rest => '\n' :: unifyNewlines rest
  | '\r' :: rest => '\n' :: unifyNewlines rest
  | character :: rest => character :: unifyNewlines rest

def decimal (number : Nat) : Text := Nat.toDigits 10 number

def hexadecimal (width number : Nat) : Text :=
  let digits := Nat.toDigits 16 number
  List.replicate (width - digits.length) '0' ++ digits

section Named

variable {Entry : Type} {entries : List Entry} {nameOf : Entry → Text}

theorem find?_named_eq_none_iff {name : Text} :
    (entries.find? fun entry => nameOf entry = name) = none ↔
      name ∉ entries.map nameOf := by
  rw [List.find?_eq_none, List.mem_map, not_exists]
  simp only [decide_eq_true_eq, not_and]

theorem name_of_find?_named {name : Text} {entry : Entry}
    (found : (entries.find? fun other => nameOf other = name) = some entry) :
    nameOf entry = name := by
  have holds := List.find?_some found
  exact of_decide_eq_true holds

/-- An entry is found by its name where no other entry has that name. -/
theorem find?_named (distinct : (entries.map nameOf).Nodup) {entry : Entry}
    (member : entry ∈ entries) :
    (entries.find? fun other => nameOf other = nameOf entry) = some entry := by
  induction entries with
  | nil => cases member
  | cons first rest ih =>
      rw [List.map_cons, List.nodup_cons] at distinct
      rcases List.mem_cons.mp member with rfl | later
      · exact List.find?_cons_of_pos (decide_eq_true rfl)
      · have apart : nameOf first ≠ nameOf entry := by
          intro same
          rw [same] at distinct
          exact distinct.1 (List.mem_map_of_mem later)
        rw [List.find?_cons_of_neg (by simpa using apart)]
        exact ih distinct.2 later

end Named

end Text

end DocTag
