import DocTag.Text.Basic
/-!
A cursor over a comment.  It only moves forward, and `forward` is the one
operation that moves it: every reading operation is the text it returns
together with a `forward` by the length of what it passed.

A reading of an attribute list, which is text between brackets, moves the
cursor also when it fails: a character met in place of the opening bracket
stays passed, and a list without its closing bracket runs to the end of the
comment.
-/

namespace DocTag

/-- A place in a text: what was passed, nearest character first, and what is
still ahead. -/
structure Cursor where
  passed : Text
  ahead : Text
deriving DecidableEq, Repr

namespace Cursor

def ofText (text : Text) : Cursor := ⟨[], text⟩

def text (cursor : Cursor) : Text := cursor.passed.reverse ++ cursor.ahead

def position (cursor : Cursor) : Nat := cursor.passed.length

def atEnd (cursor : Cursor) : Bool := cursor.ahead.isEmpty

def peek? (cursor : Cursor) : Option Char := cursor.ahead.head?

/-- Passes the next `count` characters, or all that are left. -/
def forward (cursor : Cursor) (count : Nat) : Cursor :=
  ⟨(cursor.ahead.take count).reverse ++ cursor.passed, cursor.ahead.drop count⟩

def advance (cursor : Cursor) : Option Char × Cursor :=
  (cursor.peek?, cursor.forward 1)

def take (cursor : Cursor) (count : Nat) : Text × Cursor :=
  (cursor.ahead.take count, cursor.forward count)

def takeWhile (cursor : Cursor) (holds : Char → Bool) : Text × Cursor :=
  let run := cursor.ahead.takeWhile holds
  (run, cursor.forward run.length)

def skipWhile (cursor : Cursor) (holds : Char → Bool) : Cursor :=
  (cursor.takeWhile holds).2

def skipBlanks (cursor : Cursor) : Cursor := cursor.skipWhile Text.isBlank

def readWord (cursor : Cursor) : Text × Cursor :=
  cursor.takeWhile fun character => !Text.isWordSeparator character

@[simp] theorem ahead_forward (cursor : Cursor) (count : Nat) :
    (cursor.forward count).ahead = cursor.ahead.drop count := rfl

@[simp] theorem text_forward (cursor : Cursor) (count : Nat) :
    (cursor.forward count).text = cursor.text := by
  simp [forward, text]

@[simp] theorem position_forward (cursor : Cursor) (count : Nat) :
    (cursor.forward count).position =
      cursor.position + min count cursor.ahead.length := by
  simp [forward, position, Nat.add_comm]

theorem length_ahead_forward_le (cursor : Cursor) (count : Nat) :
    (cursor.forward count).ahead.length ≤ cursor.ahead.length := by
  simp

theorem length_ahead_readWord_le (cursor : Cursor) :
    cursor.readWord.2.ahead.length ≤ cursor.ahead.length :=
  length_ahead_forward_le cursor _

theorem length_ahead_skipBlanks_le (cursor : Cursor) :
    cursor.skipBlanks.ahead.length ≤ cursor.ahead.length :=
  length_ahead_forward_le cursor _

end Cursor

inductive AttributeFault where
  | openingMissing
  | closingMissing
deriving DecidableEq, Repr

def AttributeFault.message : AttributeFault → Text
  | .openingMissing => "Expected opening '[' inside attribute list".toList
  | .closingMissing => "Expected closing ']' inside attribute list".toList

def Cursor.readAttributes (cursor : Cursor) :
    Except AttributeFault Text × Cursor :=
  match cursor.advance with
  | (some '[', opened) =>
      match opened.takeWhile (· != ']') with
      | (attributes, inside) =>
          match inside.advance with
          | (some _, closed) => (.ok attributes, closed)
          | (none, stopped) => (.error .closingMissing, stopped)
  | (_, stopped) => (.error .openingMissing, stopped)

theorem Cursor.length_ahead_readAttributes_le (cursor : Cursor) :
    cursor.readAttributes.2.ahead.length ≤ cursor.ahead.length := by
  simp only [readAttributes, advance, takeWhile]
  split
  · next opened hOpened =>
      obtain ⟨-, rfl⟩ := Prod.mk.inj hOpened
      split <;> rename_i hClosed <;>
        obtain ⟨-, rfl⟩ := Prod.mk.inj hClosed <;>
        simp only [ahead_forward, List.length_drop] <;> omega
  · next read stopped hRead hStopped =>
      obtain ⟨-, rfl⟩ := Prod.mk.inj hStopped
      exact length_ahead_forward_le cursor 1

end DocTag
