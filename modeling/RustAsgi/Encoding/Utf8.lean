import Mathlib.Data.List.Basic
import Mathlib.Tactic.Common

/-!
# UTF-8 with replacement

Text is a list of characters. Decoding never fails: a sequence that cannot be the
beginning of a character is replaced, up to the first byte that rules it out, by
one replacement character.
-/

namespace Utf8

abbrev Bytes := List UInt8

def encode (text : List Char) : Bytes :=
  text.flatMap String.utf8EncodeChar

/-- The character that the bytes begin with. -/
def first? (bytes : Bytes) : Option Char :=
  bytes.toByteArray.utf8DecodeChar? 0

/-- The number of bytes after the first one in its character, and the range of the next byte. -/
def expects (lead : UInt8) : ℕ × UInt8 × UInt8 :=
  if 0xC2 ≤ lead ∧ lead ≤ 0xDF then (1, 0x80, 0xBF)
  else if lead = 0xE0 then (2, 0xA0, 0xBF)
  else if lead = 0xED then (2, 0x80, 0x9F)
  else if 0xE1 ≤ lead ∧ lead ≤ 0xEF then (2, 0x80, 0xBF)
  else if lead = 0xF0 then (3, 0x90, 0xBF)
  else if 0xF1 ≤ lead ∧ lead ≤ 0xF3 then (3, 0x80, 0xBF)
  else if lead = 0xF4 then (3, 0x80, 0x8F)
  else (0, 0x80, 0xBF)

/-- How many of these bytes can belong to the character that `lead` begins. -/
def continued (lead : UInt8) (rest : Bytes) : ℕ :=
  match expects lead, rest with
  | (more + 1, low, high), next :: later =>
      if low ≤ next ∧ next ≤ high then
        1 + ((later.take more).takeWhile fun byte => 0x80 ≤ byte && byte ≤ 0xBF).length
      else 0
  | _, _ => 0

def replacement : Char := '\uFFFD'

/-- Decode the bytes that remain after the first `skip`. -/
def lossyAfter : ℕ → Bytes → List Char
  | _, [] => []
  | skip + 1, _ :: rest => lossyAfter skip rest
  | 0, lead :: rest =>
      match first? (lead :: rest) with
      | some c => c :: lossyAfter (c.utf8Size - 1) rest
      | none => replacement :: lossyAfter (continued lead rest) rest

/-- Decode with replacement characters. -/
def lossy (bytes : Bytes) : List Char :=
  lossyAfter 0 bytes

variable {c : Char} {text : List Char} {bytes rest : Bytes}

@[simp]
theorem encode_cons : encode (c :: text) = String.utf8EncodeChar c ++ encode text :=
  List.flatMap_cons

@[simp]
theorem first_encodeChar : first? (String.utf8EncodeChar c ++ bytes) = some c := by
  rw [first?, List.toByteArray_append]
  exact ByteArray.utf8DecodeChar?_utf8EncodeChar_append

theorem lossyAfter_length : lossyAfter rest.length (rest ++ bytes) = lossy bytes := by
  induction rest with
  | nil => rfl
  | cons byte rest ih => exact ih

theorem lossy_encodeChar : lossy (String.utf8EncodeChar c ++ bytes) = c :: lossy bytes := by
  have first : first? (String.utf8EncodeChar c ++ bytes) = some c := first_encodeChar
  have size : (String.utf8EncodeChar c).length = c.utf8Size := String.length_utf8EncodeChar c
  cases encoded : String.utf8EncodeChar c with
  | nil =>
      have positive := c.utf8Size_pos
      rw [encoded, List.length_nil] at size
      omega
  | cons lead rest =>
      rw [encoded, List.cons_append] at first
      rw [encoded, List.length_cons] at size
      rw [List.cons_append, lossy, lossyAfter, first]
      have more : c.utf8Size - 1 = rest.length := by omega
      simp only [more, lossyAfter_length]

/-- Decoding inverts encoding. -/
theorem lossy_encode (text : List Char) : lossy (encode text) = text := by
  induction text with
  | nil => rfl
  | cons c text ih => rw [encode_cons, lossy_encodeChar, ih]

/-- A truncated character is replaced as a whole, a byte that begins none on its own. -/
example :
    lossy [0x61, 0xE3, 0x81, 0x62, 0xFF, 0xFF] = ['a', '\uFFFD', 'b', '\uFFFD', '\uFFFD'] := by
  decide +kernel

end Utf8
