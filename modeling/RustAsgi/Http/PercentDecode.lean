import RustAsgi.Encoding.Percent
import RustAsgi.Http.Message

/-!
# `percent_decode`

The decoder for the `path` of a scope. It works on the bytes of the target, by
index; an index out of bounds or a byte that overflows would be a panic.
-/

namespace RustAsgi

open Percent

def hexVal (b : UInt8) : Option UInt8 :=
  if 48 ≤ b ∧ b ≤ 57 then some (b - 48)
  else if 97 ≤ b ∧ b ≤ 102 then some (b - 97 + 10)
  else if 65 ≤ b ∧ b ≤ 70 then some (b - 65 + 10)
  else none

/-- `h * 16 + l`, or `none` when it overflows. -/
def joinDigits (h l : UInt8) : Option UInt8 :=
  if h.toNat * 16 + l.toNat < UInt8.size then some (h * 16 + l) else none

/-- The condition of the `if`: the byte that is written by the escape at `i`, if there is one. The
outer `none` is a panic. -/
def escapeAt (bytes : Bytes) (i : ℕ) : Option (Option UInt8) := do
  let byte ← bytes[i]?
  if byte = sign ∧ i + 2 < bytes.length then
    let first ← bytes[i + 1]?
    let second ← bytes[i + 2]?
    match hexVal first, hexVal second with
    | some h, some l => (joinDigits h l).map some
    | _, _ => some none
  else some none

/-- The `while` loop, from `i` on. -/
def decodeFrom (bytes : Bytes) (i : ℕ) (out : Bytes) : Option Bytes :=
  if i < bytes.length then
    match escapeAt bytes i with
    | none => none
    | some (some byte) => decodeFrom bytes (i + 3) (out ++ [byte])
    | some none =>
        match bytes[i]? with
        | none => none
        | some byte => decodeFrom bytes (i + 1) (out ++ [byte])
  else some out
termination_by bytes.length - i

def percentDecode (input : Text) : Option Text :=
  (decodeFrom (Utf8.encode input) 0 []).map Utf8.lossy

section Digits

variable {b h l byte : UInt8} {value : ℕ}

theorem hexVal_eq_some : hexVal b = some h ↔ IsHexDigit b h.toNat := by
  have below := b.toNat_lt
  have small := h.toNat_lt
  simp only [hexVal, IsHexDigit, UInt8.le_iff_toNat_le]
  split
  · rename_i range
    simp only [Option.some.injEq, ← UInt8.toNat_inj, UInt8.toNat_sub, UInt8.reduceToNat] at range ⊢
    omega
  · split
    · rename_i range
      simp only [Option.some.injEq, ← UInt8.toNat_inj, UInt8.toNat_sub, UInt8.toNat_add,
        UInt8.reduceToNat] at range ⊢
      omega
    · split
      · rename_i range
        simp only [Option.some.injEq, ← UInt8.toNat_inj, UInt8.toNat_sub, UInt8.toNat_add,
          UInt8.reduceToNat] at range ⊢
        omega
      · simp only [UInt8.reduceToNat, reduceCtorEq, false_iff] at *
        omega

theorem hexVal_of_writes (writes : IsHexDigit b value) :
    ∃ digit : UInt8, hexVal b = some digit ∧ digit.toNat = value := by
  have small := writes.lt
  have size : UInt8.size = 256 := rfl
  have number : (UInt8.ofNat value).toNat = value := UInt8.toNat_ofNat_of_lt' (by omega)
  refine ⟨UInt8.ofNat value, hexVal_eq_some.mpr ?_, number⟩
  rwa [number]

/-- Two digits never overflow a byte. -/
theorem joinDigits_of_lt (high : h.toNat < 16) (low : l.toNat < 16) :
    ∃ byte, joinDigits h l = some byte ∧ byte.toNat = 16 * h.toNat + l.toNat := by
  have fits : h.toNat * 16 + l.toNat < UInt8.size := by
    have size : UInt8.size = 256 := rfl
    omega
  refine ⟨h * 16 + l, if_pos fits, ?_⟩
  simp only [UInt8.toNat_add, UInt8.toNat_mul, UInt8.reduceToNat]
  omega

end Digits

section Loop

variable {bytes front rest after out : Bytes} {byte : UInt8} {token : Token} {tokens : List Token}

theorem getElem_front (front rest : Bytes) (k : ℕ) :
    (front ++ rest)[front.length + k]? = rest[k]? := by
  rw [List.getElem?_append_right (by omega)]
  simp

theorem escapeAt_of_escape (found : Escape rest token after) :
    escapeAt (front ++ rest) front.length = some (some token.byte) := by
  rcases found with ⟨high, low, byte, h, l, rfl, rfl, first, second, writes⟩
  rcases hexVal_of_writes first with ⟨h', firstVal, rfl⟩
  rcases hexVal_of_writes second with ⟨l', secondVal, rfl⟩
  rcases joinDigits_of_lt first.lt second.lt with ⟨joined, join, value⟩
  have same : joined = byte := UInt8.toNat_inj.mp (value.trans writes.symm)
  have inside : front.length + 2 < (front ++ sign :: high :: low :: after).length := by
    simp only [List.length_append, List.length_cons]
    omega
  have head := getElem_front front (sign :: high :: low :: after) 0
  simp only [Nat.add_zero] at head
  simp only [escapeAt, head, getElem_front, List.getElem?_cons_zero, List.getElem?_cons_succ,
    Option.bind_eq_bind, Option.bind_some, inside, and_self, if_true, firstVal, secondVal, join,
    same, Option.map_some, Token.byte]

theorem escapeAt_of_plain (plain : ∀ token after, ¬ Escape (byte :: rest) token after) :
    escapeAt (front ++ byte :: rest) front.length = some none := by
  have head := getElem_front front (byte :: rest) 0
  simp only [Nat.add_zero] at head
  simp only [escapeAt, head, getElem_front, List.getElem?_cons_zero, List.getElem?_cons_succ,
    Option.bind_eq_bind, Option.bind_some, List.length_append, List.length_cons]
  split
  next condition =>
    rcases condition with ⟨rfl, inside⟩
    rcases rest with _ | ⟨high, _ | ⟨low, after⟩⟩
    · simp only [List.length_nil] at inside
      omega
    · simp only [List.length_cons, List.length_nil] at inside
      omega
    · simp only [List.getElem?_cons_zero, List.getElem?_cons_succ, Option.bind_some]
      split
      next h l first second =>
        have high_writes := hexVal_eq_some.mp first
        have low_writes := hexVal_eq_some.mp second
        rcases joinDigits_of_lt high_writes.lt low_writes.lt with ⟨joined, _, value⟩
        exact absurd ⟨high, low, joined, _, _, rfl, rfl, high_writes, low_writes, value⟩
          (plain (.escape high low joined) after)
      next => rfl
  next => rfl

/-- The loop reads what remains from left to right. It never panics. -/
theorem decodeFrom_of_scan (scan : Scan rest tokens) :
    decodeFrom (front ++ rest) front.length out = some (out ++ tokens.map Token.byte) := by
  induction scan generalizing front out with
  | nil =>
      rw [decodeFrom, if_neg (by simp)]
      simp
  | @escape bytes rest token tokens found _ ih =>
      rcases found with ⟨high, low, byte, h, l, rfl, rfl, written⟩
      have found : Escape (sign :: high :: low :: rest) (.escape high low byte) rest :=
        ⟨high, low, byte, h, l, rfl, rfl, written⟩
      rw [decodeFrom, if_pos (by simp), escapeAt_of_escape found]
      have onward := @ih (front ++ [sign, high, low]) (out ++ [byte])
      simp only [List.append_assoc, List.cons_append, List.nil_append, List.length_append,
        List.length_cons, List.length_nil] at onward
      simpa [Token.byte] using onward
  | @literal byte rest tokens plain _ ih =>
      have head := getElem_front front (byte :: rest) 0
      simp only [Nat.add_zero, List.getElem?_cons_zero] at head
      rw [decodeFrom, if_pos (by simp), escapeAt_of_plain plain]
      simp only [head]
      have onward := @ih (front ++ [byte]) (out ++ [byte])
      simp only [List.append_assoc, List.cons_append, List.nil_append, List.length_append,
        List.length_cons, List.length_nil] at onward
      simpa [Token.byte] using onward

end Loop

variable {input text : Text}

theorem percentDecode_of_scan {tokens : List Token} (scan : Scan (Utf8.encode input) tokens) :
    percentDecode input = some (Utf8.lossy (tokens.map Token.byte)) := by
  have read : decodeFrom (Utf8.encode input) 0 [] = some (tokens.map Token.byte) :=
    @decodeFrom_of_scan [] _ [] _ scan
  rw [percentDecode, read, Option.map_some]

theorem percentDecode_total (input : Text) : ∃ output, percentDecode input = some output := by
  rcases exists_scan (Utf8.encode input) with ⟨tokens, scan⟩
  exact ⟨_, percentDecode_of_scan scan⟩

/-- The decoder reads its input in the one way from left to right, each byte once; and whatever
has been encoded, it decodes. -/
theorem percentDecode_reads (input : Text) :
    (∃ tokens, Scan (Utf8.encode input) tokens ∧
      (∀ others, Scan (Utf8.encode input) others → others = tokens) ∧
      tokens.flatMap Token.spelling = Utf8.encode input ∧
      percentDecode input = some (Utf8.lossy (tokens.map Token.byte))) ∧
    ∀ text, Encodes (Utf8.encode text) (Utf8.encode input) → percentDecode input = some text := by
  constructor
  · rcases exists_scan (Utf8.encode input) with ⟨tokens, scan⟩
    refine ⟨tokens, scan, ?_, scan.spelling, percentDecode_of_scan scan⟩
    intro others again
    exact again.unique scan
  · intro text encodes
    rcases encodes.scan with ⟨tokens, scan, read⟩
    rw [percentDecode_of_scan scan, read, Utf8.lossy_encode]

/-- A character of two bytes is written by two escapes, with digits in either case. -/
theorem percentDecode_reads_mixed :
    percentDecode "/%C3%a9".toList = some "/é".toList := by
  refine (percentDecode_reads _).2 _ ?_
  have text : Utf8.encode "/é".toList = [0x2F, 0xC3, 0xA9] := by decide +kernel
  have encoded : Utf8.encode "/%C3%a9".toList =
      [0x2F, sign, 0x43, 0x33, sign, 0x61, 0x39] := by decide +kernel
  rw [text, encoded]
  refine .literal (by decide) (.escape (h := 12) (l := 3) ?_ ?_ rfl
    (.escape (h := 10) (l := 9) ?_ ?_ rfl .nil))
  all_goals decide

end RustAsgi
