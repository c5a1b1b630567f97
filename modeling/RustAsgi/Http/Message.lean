import Mathlib.Data.List.Infix
import Mathlib.Data.List.TakeWhile
import RustAsgi.Http.Feed

/-!
# Requests and replies

A request as hyper hands it to the service, and a reply that the server makes
itself. What the `http` crate guarantees of its values is a field of theirs; a
reply with a header value that it does not take is none, because the source
unwraps the builder.
-/

namespace RustAsgi

/-- A string by its characters. -/
abbrev Text := List Char

namespace Text

/-- `str::len`. -/
def byteLength (text : Text) : ℕ :=
  text.foldl (fun bytes c => bytes + c.utf8Size) 0

/-- `str::contains` of another string. -/
def contains (text part : Text) : Bool :=
  decide (part <:+: text)

def eqIgnoreAsciiCase (text other : Text) : Bool :=
  text.map Char.toLower == other.map Char.toLower

/-- `char::is_whitespace`, among ASCII characters. -/
def isWhitespace (c : Char) : Bool :=
  c == ' ' || (9 ≤ c.toNat && c.toNat ≤ 13)

/-- `str::trim`. -/
def trim (text : Text) : Text :=
  ((text.dropWhile isWhitespace).reverse.dropWhile isWhitespace).reverse

/-- The number that a nonempty string of digits writes. -/
def parseDigits (text : Text) : Option ℕ :=
  if text ≠ [] ∧ text.all Char.isDigit = true then
    some (text.foldl (fun number digit => 10 * number + (digit.toNat - 48)) 0)
  else none

/-- `str::parse::<u64>`. -/
def parseU64 (text : Text) : Option ℕ :=
  let digits := match text with
    | '+' :: rest => rest
    | _ => text
  (parseDigits digits).filter fun number => number < UInt64.size

/-- `str::strip_prefix`. -/
def stripLeading (text front : Text) : Option Text :=
  if front <+: text then some (text.drop front.length) else none

/-- `str::splitn` at a character. -/
def splitn (separator : Char) : ℕ → Text → List Text
  | 0, _ => []
  | 1, text => [text]
  | parts + 2, text =>
      match text.dropWhile (· ≠ separator) with
      | [] => [text]
      | _ :: rest => text.takeWhile (· ≠ separator) :: splitn separator (parts + 1) rest

section Splitn

variable {separator : Char} {parts : ℕ} {text part : Text}

theorem splitn_append (free : separator ∉ part) (rest : Text) :
    splitn separator (parts + 2) (part ++ separator :: rest) =
      part :: splitn separator (parts + 1) rest := by
  have differs : ∀ c ∈ part, decide (c ≠ separator) = true := by
    intro c member
    rw [decide_eq_true_iff]
    rintro rfl
    exact free member
  have dropped : (part ++ separator :: rest).dropWhile (· ≠ separator) = separator :: rest := by
    rw [List.dropWhile_append_of_pos differs]
    exact List.dropWhile_cons_of_neg (by simp)
  have taken : (part ++ separator :: rest).takeWhile (· ≠ separator) = part := by
    rw [List.takeWhile_append_of_pos differs, List.takeWhile_cons_of_neg (by simp),
      List.append_nil]
  rw [splitn, dropped, taken]

/-- A string that is split once more starts with its first part and a separator. -/
theorem splitn_eq_cons {next : Text} {others : List Text} :
    splitn separator (parts + 2) text = part :: next :: others ↔
      ∃ rest, text = part ++ separator :: rest ∧ separator ∉ part ∧
        splitn separator (parts + 1) rest = next :: others := by
  constructor
  · intro split
    rw [splitn] at split
    cases dropped : text.dropWhile (· ≠ separator) with
    | nil =>
        rw [dropped] at split
        cases split
    | cons c rest =>
        rw [dropped, List.cons.injEq] at split
        rcases split with ⟨rfl, remaining⟩
        have met : c = separator := by
          have stopped := List.head?_dropWhile_not (· ≠ separator) text
          rw [dropped] at stopped
          simpa using stopped
        refine ⟨rest, ?_, ?_, remaining⟩
        · subst met
          rw [← dropped, List.takeWhile_append_dropWhile]
        · intro member
          have differs := List.mem_takeWhile_imp member
          simp at differs
  · rintro ⟨rest, rfl, free, remaining⟩
    rw [splitn_append free, remaining]

end Splitn

end Text

/-- A byte that `HeaderValue` takes. -/
def fieldByte (byte : UInt8) : Bool :=
  byte == 9 || (32 ≤ byte && byte ≠ 127)

/-- A character whose UTF-8 bytes are such bytes. -/
def fieldChar (c : Char) : Bool :=
  c == '\t' || (32 ≤ c.toNat && c.toNat ≠ 127)

structure HeaderValue where
  bytes : Bytes
  legal : ∀ byte ∈ bytes, fieldByte byte = true

/-- `HeaderValue::to_str`: only visible ASCII, spaces and tabs can be read. -/
def HeaderValue.toStr (value : HeaderValue) : Option Text :=
  if value.bytes.all fun byte => byte == 9 || (32 ≤ byte && byte < 127) then
    some (value.bytes.map fun byte => Char.ofNat byte.toNat)
  else none

/-- The bytes of a value as characters, readable or not. -/
def HeaderValue.chars (value : HeaderValue) : Text :=
  value.bytes.map fun byte => Char.ofNat byte.toNat

/-- The lines in the order of the map's iteration, by lowercase names. -/
abbrev HeaderMap := List (String × HeaderValue)

namespace HeaderMap

/-- `get`: the first value of several. -/
def get (headers : HeaderMap) (name : String) : Option HeaderValue :=
  headers.lookup name

/-- `get(name).and_then(|v| v.to_str().ok())`. -/
def getStr (headers : HeaderMap) (name : String) : Option Text :=
  (headers.get name).bind HeaderValue.toStr

end HeaderMap

/-- A character of a request target. -/
def targetChar (c : Char) : Bool :=
  32 < c.toNat && c.toNat ≠ 127

structure Uri where
  path : Text
  query : Option Text
  legalPath : ∀ c ∈ path, targetChar c = true
  legalQuery : ∀ text ∈ query, ∀ c ∈ text, targetChar c = true

theorem Uri.legalQuery_none : ∀ text ∈ (none : Option Text), ∀ c ∈ text, targetChar c = true := by
  intro text given
  cases given

/-- The parts of a `Request<Incoming>`. -/
structure Parts where
  method : String
  uri : Uri
  headers : HeaderMap

structure HttpReply where
  status : ℕ
  headers : List (String × Text)
  body : Text
  deriving DecidableEq, Repr

/-- The decimal digits of `usize::to_string`. -/
def decimal (number : ℕ) : Text :=
  Nat.toDigits 10 number

/-- `Response::builder()` with these parts, unwrapped. -/
def buildReply (status : ℕ) (headers : List (String × Text)) (body : Text) : Option HttpReply :=
  if headers.all fun header => header.2.all fieldChar then some { status, headers, body } else none

/-- `status_response`. -/
def statusResponse (status : ℕ) (text : String) : Option HttpReply :=
  let body := text.toList ++ ['\n']
  buildReply status
    [("content-type", "text/plain; charset=utf-8".toList),
      ("content-length", decimal (Text.byteLength body))] body

section Legal

theorem fieldChar_of_isDigit {c : Char} (digit : c.isDigit = true) : fieldChar c = true := by
  simp only [Char.isDigit, Bool.and_eq_true, decide_eq_true_eq] at digit
  have low : 48 ≤ c.toNat := digit.1
  have high : c.toNat ≤ 57 := digit.2
  simp only [fieldChar, Bool.or_eq_true, Bool.and_eq_true, decide_eq_true_eq]
  right
  omega

theorem fieldChar_of_targetChar {c : Char} (target : targetChar c = true) :
    fieldChar c = true := by
  simp only [targetChar, Bool.and_eq_true, decide_eq_true_eq] at target
  simp only [fieldChar, Bool.or_eq_true, Bool.and_eq_true, decide_eq_true_eq]
  right
  omega

theorem toNat_ofByte (byte : UInt8) : (Char.ofNat byte.toNat).toNat = byte.toNat := by
  have small : byte.toNat < 256 := byte.toNat_lt
  have valid : byte.toNat.isValidChar := .inl (by omega)
  rw [Char.ofNat, dif_pos valid]
  rfl

theorem fieldChar_of_toStr {value : HeaderValue} {text : Text}
    (readable : value.toStr = some text) :
    ∀ c ∈ text, fieldChar c = true := by
  simp only [HeaderValue.toStr, Option.ite_none_right_eq_some, Option.some.injEq] at readable
  rcases readable with ⟨visible, rfl⟩
  intro c member
  rcases List.mem_map.mp member with ⟨byte, here, rfl⟩
  have ascii := List.all_eq_true.mp visible byte here
  simp only [Bool.or_eq_true, Bool.and_eq_true, beq_iff_eq, decide_eq_true_eq,
    UInt8.le_iff_toNat_le, UInt8.lt_iff_toNat_lt] at ascii
  rcases ascii with rfl | ⟨low, high⟩
  · rfl
  · have low : 32 ≤ byte.toNat := low
    have high : byte.toNat < 127 := high
    simp only [fieldChar, toNat_ofByte, Bool.or_eq_true, Bool.and_eq_true, decide_eq_true_eq]
    right
    omega

theorem fieldChar_of_decimal {number : ℕ} : ∀ c ∈ decimal number, fieldChar c = true :=
  fun _ member => fieldChar_of_isDigit
    (Nat.isDigit_of_mem_toDigits (by decide) (by decide) member)

theorem buildReply_of_legal {status : ℕ} {headers : List (String × Text)} {body : Text}
    (legal : ∀ header ∈ headers, ∀ c ∈ header.2, fieldChar c = true) :
    buildReply status headers body = some { status, headers, body } := by
  apply if_pos
  rw [List.all_eq_true]
  intro header member
  exact List.all_eq_true.mpr (legal header member)

theorem buildReply_of_illegal {status : ℕ} {headers : List (String × Text)} {body : Text}
    {header : String × Text} {c : Char} (given : header ∈ headers) (member : c ∈ header.2)
    (illegal : fieldChar c = false) : buildReply status headers body = none := by
  apply if_neg
  intro legal
  have holds := List.all_eq_true.mp (List.all_eq_true.mp legal header given) c member
  rw [illegal] at holds
  cases holds

theorem statusResponse_eq (status : ℕ) (text : String) :
    ∃ reply, statusResponse status text = some reply ∧ reply.status = status := by
  refine ⟨_, buildReply_of_legal ?_, rfl⟩
  intro header member
  simp only [List.mem_cons, List.not_mem_nil, or_false] at member
  rcases member with rfl | rfl
  · simp [fieldChar]
  · exact fun _ member => fieldChar_of_decimal _ member

end Legal

end RustAsgi
