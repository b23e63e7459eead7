import DocTag.Text.Utf8
import Mathlib.Data.List.Forall2
/-!
Texts that come back from their bytes.

The form of a character is a lead byte and the bytes that the lead asks for,
each of them in its range; and the bits they carry make up the code point.  So
decoding what was encoded gives the text again.  A text without carriage
returns is also left as it is when its line ends are unified.
-/

namespace DocTag

namespace Utf8

def Within (range : Nat × Nat) (byte : UInt8) : Prop :=
  range.1 ≤ byte.toNat ∧ byte.toNat ≤ range.2

def Follow (ranges : List (Nat × Nat)) (following : Bytes) : Prop :=
  List.Forall₂ Within ranges following

/-- The bytes are a lead byte with the bytes it asks for, and carry the code
point. -/
def IsForm (code : Nat) (bytes : Bytes) : Prop :=
  ∃ (byte : UInt8) (lead : Lead) (following : Bytes),
    bytes = byte :: following ∧ lead? byte.toNat = some lead ∧
      Follow lead.following following ∧ codePoint lead.share following = code

private theorem followingFault?_of_follow {ranges : List (Nat × Nat)}
    {following : Bytes} (follow : Follow ranges following) (rest : Bytes) :
    followingFault? ranges (following ++ rest) = none := by
  induction follow with
  | nil => cases rest <;> rfl
  | cons within further ih =>
      rw [List.cons_append, followingFault?]
      simp [within.1, within.2, ih]

theorem decodeFrom_append_of_isForm {code : Nat} {bytes : Bytes}
    (form : IsForm code bytes) (offset : Nat) (rest : Bytes) :
    decodeFrom offset (bytes ++ rest) =
      (decodeFrom (offset + bytes.length) rest).map (Char.ofNat code :: ·) := by
  obtain ⟨byte, lead, following, rfl, leads, follow, rfl⟩ := form
  have count : lead.following.length = following.length :=
    List.Forall₂.length_eq follow
  rw [List.cons_append, decodeFrom]
  simp only [leads, followingFault?_of_follow follow rest, count,
    List.take_left, List.drop_left, List.length_cons, Nat.add_assoc,
    Nat.add_comm 1]

private theorem toNat_continuationByte (number : Nat) :
    (continuationByte number).toNat = 0x80 + number % 64 :=
  UInt8.toNat_ofNat_of_lt' (by change _ < 256; omega)

private theorem continuation_within (number : Nat) :
    Within continuation (continuationByte number) := by
  rw [Within, toNat_continuationByte]
  simp only [continuation]
  omega

private theorem lead?_of_two : ∀ share : Nat, share < 0x20 → 2 ≤ share →
    lead? (0xC0 + share) = some ⟨share, [continuation]⟩ := by
  decide

private theorem lead?_of_three : ∀ share : Nat, share < 0x10 →
    lead? (0xE0 + share) =
      some ⟨share, [if share = 0 then (0xA0, 0xBF)
        else if share = 0xD then (0x80, 0x9F) else continuation,
        continuation]⟩ := by
  decide

private theorem lead?_of_four : ∀ share : Nat, share < 5 →
    lead? (0xF0 + share) =
      some ⟨share, [if share = 0 then (0x90, 0xBF)
        else if share = 4 then (0x80, 0x8F) else continuation,
        continuation, continuation]⟩ := by
  decide

/-- The byte behind a lead of three bytes keeps the form from being overlong,
and out of the surrogates. -/
private theorem second_of_three_within {code : Nat} (long : 0x800 ≤ code)
    (short : code < 0x10000) (scalar : code < 0xD800 ∨ 0xDFFF < code) :
    Within (if code / 4096 = 0 then (0xA0, 0xBF)
        else if code / 4096 = 0xD then (0x80, 0x9F) else continuation)
      (continuationByte (code / 64)) := by
  rw [Within, toNat_continuationByte]
  simp only [continuation]
  split_ifs <;> simp only <;> omega

private theorem second_of_four_within {code : Nat} (long : 0x10000 ≤ code)
    (inside : code < 0x110000) :
    Within (if code / 262144 = 0 then (0x90, 0xBF)
        else if code / 262144 = 4 then (0x80, 0x8F) else continuation)
      (continuationByte (code / 4096)) := by
  rw [Within, toNat_continuationByte]
  simp only [continuation]
  split_ifs <;> simp only <;> omega

/-- A byte carries the last six bits of a number, behind a share that carries
the others. -/
private theorem codePoint_continuation (number : Nat) (following : Bytes) :
    codePoint (number / 64) (continuationByte number :: following) =
      codePoint number following := by
  rw [codePoint, List.foldl_cons, toNat_continuationByte, codePoint]
  congr 1
  omega

private theorem isForm_of_lead {number code : Nat} {lead : Lead}
    {following : Bytes}
    (small : number < 256) (leads : lead? number = some lead)
    (follow : Follow lead.following following)
    (carried : codePoint lead.share following = code) :
    IsForm code (UInt8.ofNat number :: following) := by
  refine ⟨_, lead, following, rfl, ?_, follow, carried⟩
  rw [UInt8.toNat_ofNat_of_lt' small]
  exact leads

theorem isForm_encodeChar (character : Char) :
    IsForm character.toNat (encodeChar character) := by
  have valid : character.toNat < 0xD800 ∨
      0xDFFF < character.toNat ∧ character.toNat < 0x110000 :=
    character.valid
  unfold encodeChar
  generalize character.toNat = code at valid
  have last := codePoint_continuation code []
  have lastTwo := codePoint_continuation (code / 64) [continuationByte code]
  have lastThree := codePoint_continuation (code / 4096)
    [continuationByte (code / 64), continuationByte code]
  rw [Nat.div_div_eq_div_mul] at lastTwo lastThree
  simp only
  by_cases one : code < 0x80
  · rw [if_pos one]
    have leads : lead? code = some ⟨code, []⟩ := by rw [lead?, if_pos one]
    exact isForm_of_lead (by omega) leads .nil rfl
  rw [if_neg one]
  by_cases two : code < 0x800
  · rw [if_pos two]
    have leads := lead?_of_two (code / 64) (by omega) (by omega)
    exact isForm_of_lead (by omega) leads (.cons (continuation_within code) .nil)
      last
  rw [if_neg two]
  by_cases three : code < 0x10000
  · rw [if_pos three]
    have leads := lead?_of_three (code / 4096) (by omega)
    have second := second_of_three_within (by omega) three (by omega)
    exact isForm_of_lead (by omega) leads
      (.cons second (.cons (continuation_within code) .nil))
      (lastTwo.trans last)
  · rw [if_neg three]
    have leads := lead?_of_four (code / 262144) (by omega)
    have second := second_of_four_within (Nat.le_of_not_lt three) (by omega)
    exact isForm_of_lead (by omega) leads
      (.cons second (.cons (continuation_within (code / 64))
        (.cons (continuation_within code) .nil)))
      (lastThree.trans (lastTwo.trans last))

theorem decodeFrom_encode (text : Text) (offset : Nat) :
    decodeFrom offset (encode text) = .ok text := by
  induction text generalizing offset with
  | nil => rw [encode, List.flatMap_nil, decodeFrom]
  | cons character text ih =>
      rw [encode, List.flatMap_cons,
        decodeFrom_append_of_isForm (isForm_encodeChar character),
        ← encode, ih, Char.ofNat_toNat]
      rfl

theorem decode_encode (text : Text) : decode (encode text) = .ok text :=
  decodeFrom_encode text 0

end Utf8

namespace Text

theorem return_not_mem_unifyNewlines (text : Text) :
    '\r' ∉ text.unifyNewlines := by
  fun_induction unifyNewlines text with
  | case1 => exact List.not_mem_nil
  | case2 rest ih => simpa using ih
  | case3 rest other ih => simpa using ih
  | case4 character rest pair other ih =>
      rw [List.mem_cons, not_or]
      refine ⟨?_, ih⟩
      rintro rfl
      exact other rfl

theorem unifyNewlines_eq_self {text : Text} (absent : '\r' ∉ text) :
    text.unifyNewlines = text := by
  fun_induction unifyNewlines text with
  | case1 => rfl
  | case2 rest ih => exact absurd List.mem_cons_self absent
  | case3 rest other ih => exact absurd List.mem_cons_self absent
  | case4 character rest pair other ih =>
      rw [ih (mt (List.mem_cons_of_mem character) absent)]

end Text
end DocTag
