import RustAsgi.Encoding.Utf8

/-!
# Percent-encoding

What an encoder may write for a sequence of bytes, and the one way to read any
sequence from left to right: an escape where a percent sign and two hexadecimal
digits stand, and a literal byte everywhere else.
-/

namespace Percent

open Utf8

/-- `'%'`. -/
def sign : UInt8 := 0x25

/-- The digit writes the value, in either case. -/
def IsHexDigit (digit : UInt8) (value : ℕ) : Prop :=
  (value < 10 ∧ digit.toNat = 48 + value) ∨
    (10 ≤ value ∧ value < 16 ∧ (digit.toNat = 87 + value ∨ digit.toNat = 55 + value))

instance (digit : UInt8) (value : ℕ) : Decidable (IsHexDigit digit value) :=
  inferInstanceAs (Decidable (_ ∨ _))

inductive Token where
  | literal (byte : UInt8)
  /-- The digits of an escape, and the byte that they write. -/
  | escape (high low byte : UInt8)
  deriving DecidableEq, Repr

namespace Token

/-- The bytes that the token is read from. -/
def spelling : Token → Bytes
  | .literal byte => [byte]
  | .escape high low _ => [sign, high, low]

def byte : Token → UInt8
  | .literal byte => byte
  | .escape _ _ byte => byte

end Token

/-- An escape stands at the front, and writes this byte. -/
def Escape (bytes : Bytes) (token : Token) (rest : Bytes) : Prop :=
  ∃ high low byte h l, bytes = sign :: high :: low :: rest ∧ token = .escape high low byte ∧
    IsHexDigit high h ∧ IsHexDigit low l ∧ byte.toNat = 16 * h + l

/-- The reading of the bytes from left to right. -/
inductive Scan : Bytes → List Token → Prop where
  | nil : Scan [] []
  | escape {bytes rest : Bytes} {token : Token} {tokens : List Token}
      (found : Escape bytes token rest) (later : Scan rest tokens) : Scan bytes (token :: tokens)
  | literal {byte : UInt8} {rest : Bytes} {tokens : List Token}
      (plain : ∀ token after, ¬ Escape (byte :: rest) token after) (later : Scan rest tokens) :
      Scan (byte :: rest) (.literal byte :: tokens)

/-- The second sequence writes each byte of the first as an escape, or literally if it is not a
percent sign. -/
inductive Encodes : Bytes → Bytes → Prop where
  | nil : Encodes [] []
  | literal {byte : UInt8} {bytes encoded : Bytes} (plain : byte ≠ sign)
      (later : Encodes bytes encoded) : Encodes (byte :: bytes) (byte :: encoded)
  | escape {byte high low : UInt8} {bytes encoded : Bytes} {h l : ℕ} (first : IsHexDigit high h)
      (second : IsHexDigit low l) (value : byte.toNat = 16 * h + l)
      (later : Encodes bytes encoded) : Encodes (byte :: bytes) (sign :: high :: low :: encoded)

section Reading

variable {digit : UInt8} {value other : ℕ} {bytes encoded rest after : Bytes} {token last : Token}
  {tokens others : List Token}

theorem IsHexDigit.lt (writes : IsHexDigit digit value) : value < 16 := by
  rcases writes with ⟨small, _⟩ | ⟨_, small, _⟩
  · omega
  · exact small

theorem IsHexDigit.unique (writes : IsHexDigit digit value) (again : IsHexDigit digit other) :
    value = other := by
  simp only [IsHexDigit] at writes again
  omega

theorem Escape.unique (found : Escape bytes token rest) (again : Escape bytes last after) :
    token = last ∧ rest = after := by
  rcases found with ⟨high, low, byte, h, l, rfl, rfl, first, second, writes⟩
  rcases again with ⟨high', low', byte', h', l', same, rfl, first', second', writes'⟩
  simp only [List.cons.injEq, true_and] at same
  rcases same with ⟨rfl, rfl, rfl⟩
  refine ⟨?_, rfl⟩
  rw [first.unique first', second.unique second', ← writes'] at writes
  rw [UInt8.toNat_inj.mp writes]

theorem Escape.spelling (found : Escape bytes token rest) : token.spelling ++ rest = bytes := by
  rcases found with ⟨high, low, byte, h, l, rfl, rfl, _⟩
  rfl

theorem Escape.length_lt (found : Escape bytes token rest) : rest.length < bytes.length := by
  rcases found with ⟨high, low, byte, h, l, rfl, rfl, _⟩
  simp only [List.length_cons]
  omega

theorem exists_scan (bytes : Bytes) : ∃ tokens, Scan bytes tokens := by
  by_cases starts : ∃ token rest, Escape bytes token rest
  · rcases starts with ⟨token, rest, found⟩
    have shorter : rest.length < bytes.length := found.length_lt
    rcases exists_scan rest with ⟨tokens, scan⟩
    exact ⟨token :: tokens, .escape found scan⟩
  · cases bytes with
    | nil => exact ⟨[], .nil⟩
    | cons byte rest =>
        rcases exists_scan rest with ⟨tokens, scan⟩
        refine ⟨.literal byte :: tokens, .literal ?_ scan⟩
        intro token after found
        exact starts ⟨token, after, found⟩
termination_by bytes.length

/-- The tokens cover every byte once, in order. -/
theorem Scan.spelling (scan : Scan bytes tokens) : tokens.flatMap Token.spelling = bytes := by
  induction scan with
  | nil => rfl
  | escape found _ ih => rw [List.flatMap_cons, ih, found.spelling]
  | literal _ _ ih =>
      rw [List.flatMap_cons, ih]
      rfl

theorem Scan.unique (scan : Scan bytes tokens) (again : Scan bytes others) : tokens = others := by
  induction scan generalizing others with
  | nil =>
      cases again with
      | nil => rfl
      | escape found =>
          rcases found with ⟨_, _, _, _, _, impossible, _⟩
          cases impossible
  | escape found _ ih =>
      cases again with
      | nil =>
          rcases found with ⟨_, _, _, _, _, impossible, _⟩
          cases impossible
      | escape found' later' =>
          rcases found.unique found' with ⟨rfl, rfl⟩
          rw [ih later']
      | literal plain => exact absurd found (plain _ _)
  | literal plain _ ih =>
      cases again with
      | escape found => exact absurd found (plain _ _)
      | literal _ later' => rw [ih later']

/-- What has been encoded is read back. -/
theorem Encodes.scan (encodes : Encodes bytes encoded) :
    ∃ tokens, Scan encoded tokens ∧ tokens.map Token.byte = bytes := by
  induction encodes with
  | nil => exact ⟨[], .nil, rfl⟩
  | @literal byte bytes encoded plain _ ih =>
      rcases ih with ⟨tokens, scan, read⟩
      refine ⟨.literal byte :: tokens, .literal ?_ scan, ?_⟩
      · rintro token after ⟨_, _, _, _, _, starts, _⟩
        exact plain (List.cons.inj starts).1
      · rw [List.map_cons, read]
        rfl
  | @escape byte high low bytes encoded h l first second writes _ ih =>
      rcases ih with ⟨tokens, scan, read⟩
      refine ⟨.escape high low byte :: tokens, .escape ?_ scan, ?_⟩
      · exact ⟨high, low, byte, h, l, rfl, rfl, first, second, writes⟩
      · rw [List.map_cons, read]
        rfl

end Reading

end Percent
