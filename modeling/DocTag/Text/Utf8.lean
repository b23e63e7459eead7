import DocTag.Text.Basic
/-!
The UTF-8 form of texts, read strictly.

A sequence is a lead byte and as many further bytes as it asks for.  The lead
byte restricts the byte behind it, so that overlong forms, surrogates and
numbers beyond the code space are refused.  A fault names the longest valid
start of the sequence it occurs in.
-/

namespace DocTag

abbrev Bytes := List UInt8

namespace Utf8

inductive Reason where
  | invalidStart
  | invalidContinuation
  | unexpectedEnd
deriving DecidableEq, Repr

/-- A sequence that is not valid: its first byte, where it starts, how many
bytes of it were valid (one for a byte that starts nothing), and why it ends
there. -/
structure Fault where
  lead : UInt8
  start : Nat
  length : Nat
  reason : Reason
deriving DecidableEq, Repr

/-- What a lead byte says: its share of the code point, and the inclusive
range of each byte that must follow. -/
structure Lead where
  share : Nat
  following : List (Nat × Nat)
deriving DecidableEq, Repr

def continuation : Nat × Nat := (0x80, 0xBF)

def lead? (byte : Nat) : Option Lead :=
  if byte < 0x80 then some ⟨byte, []⟩
  else if byte < 0xC2 then none
  else if byte < 0xE0 then some ⟨byte - 0xC0, [continuation]⟩
  else if byte = 0xE0 then some ⟨0, [(0xA0, 0xBF), continuation]⟩
  else if byte = 0xED then some ⟨0xD, [(0x80, 0x9F), continuation]⟩
  else if byte < 0xF0 then some ⟨byte - 0xE0, [continuation, continuation]⟩
  else if byte = 0xF0 then
    some ⟨0, [(0x90, 0xBF), continuation, continuation]⟩
  else if byte < 0xF4 then
    some ⟨byte - 0xF0, [continuation, continuation, continuation]⟩
  else if byte = 0xF4 then
    some ⟨4, [(0x80, 0x8F), continuation, continuation]⟩
  else none

def followingFault? : List (Nat × Nat) → Bytes → Option (Nat × Reason)
  | [], _ => none
  | _ :: _, [] => some (0, .unexpectedEnd)
  | (low, high) :: ranges, byte :: bytes =>
      if low ≤ byte.toNat && byte.toNat ≤ high then
        (followingFault? ranges bytes).map fun (before, reason) =>
          (before + 1, reason)
      else some (0, .invalidContinuation)

def codePoint (share : Nat) (following : Bytes) : Nat :=
  following.foldl (fun code byte => code * 64 + byte.toNat % 64) share

def decodeFrom (offset : Nat) : Bytes → Except Fault Text
  | [] => .ok []
  | byte :: bytes =>
      match lead? byte.toNat with
      | none => .error ⟨byte, offset, 1, .invalidStart⟩
      | some lead =>
          let count := lead.following.length
          match followingFault? lead.following bytes with
          | some (before, reason) =>
              .error ⟨byte, offset, before + 1, reason⟩
          | none =>
              let character :=
                Char.ofNat (codePoint lead.share (bytes.take count))
              (decodeFrom (offset + 1 + count) (bytes.drop count)).map
                (character :: ·)
termination_by bytes => bytes.length
decreasing_by simp only [List.length_drop, List.length_cons]; omega

def decode (bytes : Bytes) : Except Fault Text := decodeFrom 0 bytes

def continuationByte (number : Nat) : UInt8 := UInt8.ofNat (0x80 + number % 64)

def encodeChar (character : Char) : Bytes :=
  let code := character.toNat
  if code < 0x80 then [UInt8.ofNat code]
  else if code < 0x800 then
    [UInt8.ofNat (0xC0 + code / 64), continuationByte code]
  else if code < 0x10000 then
    [UInt8.ofNat (0xE0 + code / 4096), continuationByte (code / 64),
      continuationByte code]
  else
    [UInt8.ofNat (0xF0 + code / 262144), continuationByte (code / 4096),
      continuationByte (code / 64), continuationByte code]

def encode (text : Text) : Bytes := text.flatMap encodeChar

def Reason.message : Reason → Text
  | .invalidStart => "invalid start byte".toList
  | .invalidContinuation => "invalid continuation byte".toList
  | .unexpectedEnd => "unexpected end of data".toList

def Fault.place (fault : Fault) : Text :=
  if fault.length = 1 then
    "byte 0x".toList ++ Text.hexadecimal 2 fault.lead.toNat ++
      " in position ".toList ++ Text.decimal fault.start
  else
    "bytes in position ".toList ++ Text.decimal fault.start ++ "-".toList ++
      Text.decimal (fault.start + fault.length - 1)

def Fault.message (fault : Fault) : Text :=
  "'utf-8' codec can't decode ".toList ++ fault.place ++ ": ".toList ++
    fault.reason.message

end Utf8
end DocTag
