import RustAsgi.Server.Dispatch

/-!
# Framing of a request body

hyper selects the decoder of a request body from the header fields. `handle_http`
looks at the same fields with a parser of its own to see whether there is a body
to wait for at all: when it sees none, nobody ever reads from the decoder.
-/

namespace RustAsgi

/-- The body decoders of hyper. -/
inductive Decoder where
  | chunked
  | length (bytes : ℕ)
  deriving DecidableEq, Repr

def Frame.bytes : Frame → Bytes
  | .data bytes => bytes
  | .trailers => []

/-- All the data that the body holds or is going to hold. -/
def Incoming.data (body : Incoming) : Bytes :=
  (body.buffered ++ body.arriving).flatMap Frame.bytes

/-- The body is one that the decoder can produce. -/
def Decoder.Produces : Decoder → Incoming → Prop
  | .chunked, _ => True
  | .length bytes, body => body.data.length ≤ bytes

/-- hyper's reading of a `Content-Length`, which admits nothing but digits. -/
def contentLength (value : HeaderValue) : Option ℕ :=
  value.toStr.bind fun text =>
    (Text.parseDigits text).filter fun number => number < UInt64.size

/-- The decoder that hyper selects; `none` is a request that it rejects. -/
def selectDecoder (headers : HeaderMap) : Option Decoder :=
  if headers.any fun header => header.1 == "transfer-encoding" then some .chunked
  else
    match headers.filter fun header => header.1 == "content-length" with
    | [] => some (.length 0)
    | first :: rest =>
        match contentLength first.2 with
        | some bytes =>
            if rest.all fun header => contentLength header.2 == some bytes then
              some (.length bytes)
            else none
        | none => none

section Digits

variable {text : Text} {number : ℕ} {value : HeaderValue}

theorem isWhitespace_of_isDigit {c : Char} (digit : c.isDigit = true) :
    Text.isWhitespace c = false := by
  simp only [Char.isDigit, Bool.and_eq_true, decide_eq_true_eq] at digit
  have low : 48 ≤ c.toNat := digit.1
  have notSpace : c ≠ ' ' := by
    rintro rfl
    exact absurd low (by decide)
  simp only [Text.isWhitespace, Bool.or_eq_false_iff, beq_eq_false_iff_ne, Bool.and_eq_false_iff,
    decide_eq_false_iff_not]
  refine ⟨notSpace, .inr ?_⟩
  omega

theorem trim_of_digits (digits : text.all Char.isDigit = true) : Text.trim text = text := by
  have kept : ∀ part : Text, (∀ c ∈ part, c.isDigit = true) →
      part.dropWhile Text.isWhitespace = part := by
    intro part all
    cases part with
    | nil => rfl
    | cons c rest =>
        rw [List.dropWhile_cons_of_neg]
        simp [isWhitespace_of_isDigit (all c List.mem_cons_self)]
  have all := List.all_eq_true.mp digits
  rw [Text.trim, kept text all, kept text.reverse, List.reverse_reverse]
  intro c member
  exact all c (List.mem_reverse.mp member)

theorem digits_of_parseDigits (parsed : Text.parseDigits text = some number) :
    text.all Char.isDigit = true := by
  simp only [Text.parseDigits, Option.ite_none_right_eq_some] at parsed
  exact parsed.1.2

theorem parseU64_of_digits (parsed : Text.parseDigits text = some number) :
    Text.parseU64 text = (Text.parseDigits text).filter fun number => number < UInt64.size := by
  have digits := digits_of_parseDigits parsed
  have unsigned : ∀ rest, text ≠ '+' :: rest := by
    rintro rest rfl
    have sign := List.all_eq_true.mp digits '+' List.mem_cons_self
    cases sign
  rw [Text.parseU64]
  exact unsigned

/-- The two parsers agree wherever hyper's accepts. -/
theorem positiveLength_of_contentLength (parsed : contentLength value = some number) :
    positiveLength value = decide (0 < number) := by
  rw [contentLength, Option.bind_eq_some_iff] at parsed
  rcases parsed with ⟨text, readable, parsed⟩
  rcases Option.filter_eq_some_iff.mp parsed with ⟨read, _⟩
  have trimmed := trim_of_digits (digits_of_parseDigits read)
  have agree := parseU64_of_digits read
  rw [positiveLength, readable, Option.bind_some, trimmed, agree, parsed]

end Digits

section Bodyless

variable {headers : HeaderMap} {decoder : Decoder} {body : Incoming}

/-- What the scan of `handle_http` has seen when it finds no body. -/
theorem hasBody_eq_false :
    hasBody headers = false ↔ ∀ header ∈ headers, header.1 ≠ "transfer-encoding" ∧
      (header.1 = "content-length" → positiveLength header.2 = false) := by
  simp only [hasBody, List.any_eq_false, Bool.or_eq_true, Bool.and_eq_true, beq_iff_eq, not_or,
    not_and, Bool.not_eq_true, ne_eq]

theorem selectDecoder_of_bodyless (bodyless : hasBody headers = false)
    (selected : selectDecoder headers = some decoder) : decoder = .length 0 := by
  have seen := hasBody_eq_false.mp bodyless
  have unchunked : (headers.any fun header => header.1 == "transfer-encoding") = false := by
    rw [List.any_eq_false]
    intro header member
    rw [beq_iff_eq]
    exact (seen header member).1
  simp only [selectDecoder, unchunked, Bool.false_eq_true, if_false] at selected
  split at selected
  next => exact (Option.some.inj selected).symm
  next first rest lengths =>
    have member : first ∈ headers.filter fun header => header.1 == "content-length" :=
      lengths ▸ List.mem_cons_self
    rcases List.mem_filter.mp member with ⟨given, named⟩
    have zero := (seen first given).2 (beq_iff_eq.mp named)
    split at selected
    next bytes parsed =>
      rw [positiveLength_of_contentLength parsed, decide_eq_false_iff_not] at zero
      simp only [Option.ite_none_right_eq_some, Option.some.injEq] at selected
      rw [← selected.2, Nat.eq_zero_of_not_pos zero]
    next => cases selected

/-- A request that is taken for bodyless has no data to lose, and its application is told so. -/
theorem bodyless_misses_nothing (bodyless : hasBody headers = false)
    (selected : selectDecoder headers = some decoder) (produces : decoder.Produces body) :
    body.data = [] ∧ (Feed.new (hasBody headers) body).first = some .terminal := by
  rw [selectDecoder_of_bodyless bodyless selected] at produces
  refine ⟨List.eq_nil_of_length_eq_zero (Nat.le_zero.mp produces), ?_⟩
  rw [bodyless]
  rfl

/-- Two lengths of zero, spelled differently. -/
def zeroLengths : HeaderMap :=
  [("content-length", ⟨ascii "0", List.all_eq_true.mp (by decide +kernel)⟩),
    ("content-length", ⟨ascii "000", List.all_eq_true.mp (by decide +kernel)⟩)]

theorem bodyless_misses_nothing_zeros :
    (Incoming.new [.data []] false).data = [] ∧
      (Feed.new (hasBody zeroLengths) (.new [.data []] false)).first = some .terminal := by
  have bodyless : hasBody zeroLengths = false := by decide +kernel
  have selected : selectDecoder zeroLengths = some (.length 0) := by decide +kernel
  exact bodyless_misses_nothing bodyless selected (Nat.le_refl 0)

end Bodyless

end RustAsgi
