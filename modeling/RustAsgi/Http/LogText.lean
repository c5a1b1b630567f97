import RustAsgi.Encoding.Delimited
import RustAsgi.Http.PercentDecode
import RustAsgi.Net.Address

/-!
# The text of the access log

`log_access` prints one entry with `eprintln!`. The path in it is the decoded one and is
printed as it is, so it may hold quotes and line feeds.
-/

namespace RustAsgi

open Delimited Net Percent

/-- What `log_access` is given. The client is a socket address, or the pathname that a Unix peer
is bound to. The duration is in tenths of a millisecond, as it is rounded. -/
structure AccessEntry where
  client : Text
  method : Text
  path : Text
  status : ℕ
  size : ℕ
  tenths : ℕ
  /-- A token, as the `http` crate checks it. -/
  method_clean : ' ' ∉ method ∧ '\n' ∉ method

/-- A client whose text does not end the field it stands in. -/
def Quotable (client : Text) : Prop :=
  '"' ∉ client ∧ '\n' ∉ client

theorem quotable_socketAddr (addr : SocketAddr) : Quotable addr.text := by
  have known : '"' ∉ addressChars ∧ '\n' ∉ addressChars := by decide
  exact ⟨fun member => known.1 (addr.text_subset member),
    fun member => known.2 (addr.text_subset member)⟩

namespace AccessEntry

/-- What stands behind the closing quote of the request line. -/
def tail (status size tenths : ℕ) : Text :=
  ' ' :: decimal status ++ ' ' :: (decimal size ++ ' ' ::
    (decimal (tenths / 10) ++ '.' :: (decimal (tenths % 10) ++ "ms".toList)))

def tag : Text :=
  "INFO rustwasgi: ".toList

def line (entry : AccessEntry) : Text :=
  tag ++ (entry.client ++ ' ' :: '"' :: (entry.method ++ ' ' ::
    (entry.path ++ '"' :: tail entry.status entry.size entry.tenths)))

end AccessEntry

/-- The access log with these entries, one after the other. -/
def accessLog (entries : List AccessEntry) : Text :=
  terminated '\n' (entries.map AccessEntry.line)

namespace AccessEntry

theorem decimal_inj {number other : ℕ} (same : decimal number = decimal other) :
    number = other := by
  have read := congrArg (Nat.ofDigitChars 10 · 0) same
  simpa [decimal, Nat.ofDigitChars_toDigits] using read

theorem notMem_decimal {c : Char} (other : c.isDigit = false) (number : ℕ) :
    c ∉ decimal number := by
  intro member
  have digit := Nat.isDigit_of_mem_toDigits (by decide) (by decide) member
  rw [other] at digit
  cases digit

theorem tail_clean {c : Char} (other : c.isDigit = false) (known : c ∉ " .ms".toList)
    (status size tenths : ℕ) : c ∉ tail status size tenths := by
  have digits := notMem_decimal other
  have apart : c ≠ ' ' ∧ c ≠ '.' ∧ c ≠ 'm' ∧ c ≠ 's' := by simpa using known
  simp [tail, digits, apart]

theorem tail_inj {status size tenths status' size' tenths' : ℕ}
    (same : tail status size tenths = tail status' size' tenths') :
    status = status' ∧ size = size' ∧ tenths = tenths' := by
  have space := notMem_decimal (c := ' ') rfl
  have dot := notMem_decimal (c := '.') rfl
  have letter := notMem_decimal (c := 'm') rfl
  simp only [tail, List.cons_append, List.cons.injEq, true_and] at same
  rcases eq_of_first (space _) (space _) same with ⟨statuses, same⟩
  rcases eq_of_first (space _) (space _) same with ⟨sizes, same⟩
  rcases eq_of_first (dot _) (dot _) same with ⟨whole, same⟩
  rcases eq_of_first (letter _) (letter _) same with ⟨part, _⟩
  have whole := decimal_inj whole
  have part := decimal_inj part
  exact ⟨decimal_inj statuses, decimal_inj sizes, by omega⟩

/-- One entry can be read whatever its path is: the request line ends with the last quote. -/
theorem line_inj {entry other : AccessEntry} (quotable : Quotable entry.client)
    (quotable' : Quotable other.client) (same : entry.line = other.line) : entry = other := by
  have opened {client : Text} (quotable : Quotable client) : '"' ∉ client ++ [' '] := by
    simp [quotable.1]
  have quote := tail_clean (c := '"') rfl (by decide)
  rw [line, line, List.append_cancel_left_eq, List.append_cons, List.append_cons other.client]
    at same
  rcases eq_of_first (opened quotable) (opened quotable') same with ⟨client, same⟩
  rcases eq_of_first entry.method_clean.1 other.method_clean.1 same with ⟨method, same⟩
  rcases eq_of_last (quote _ _ _) (quote _ _ _) same with ⟨path, same⟩
  rcases tail_inj same with ⟨status, size, tenths⟩
  have client := List.append_cancel_right client
  cases entry
  cases other
  cases client
  cases method
  cases path
  cases status
  cases size
  cases tenths
  rfl

/-- An entry that is told apart from its neighbours. -/
def Plain (entry : AccessEntry) : Prop :=
  Quotable entry.client ∧ '\n' ∉ entry.path

theorem Plain.line_clean {entry : AccessEntry} (plain : entry.Plain) : '\n' ∉ entry.line := by
  have tailed := tail_clean (c := '\n') rfl (by decide) entry.status entry.size entry.tenths
  have tagged : '\n' ∉ tag := by decide
  simp [line, plain.2, plain.1.2, entry.method_clean.2, tailed, tagged]

end AccessEntry

theorem accessLog_inj {entries others : List AccessEntry} (plain : ∀ entry ∈ entries, entry.Plain)
    (plain' : ∀ entry ∈ others, entry.Plain) (same : accessLog entries = accessLog others) :
    entries = others :=
  terminated_map_inj (fun _ plain => plain.line_clean)
    (fun _ _ plain plain' written => AccessEntry.line_inj plain.1 plain'.1 written)
    plain plain' same

section Forgery

open AccessEntry

/-- A path that goes on with the rest of its own line, and with lines of other entries up to the
path of the last one. -/
def forgedPath : AccessEntry → List AccessEntry → Text
  | first, [] => first.path
  | first, next :: rest =>
      first.path ++ '"' :: (tail first.status first.size first.tenths ++ '\n' ::
        (tag ++ (next.client ++ ' ' :: '"' :: (next.method ++ ' ' :: forgedPath next rest))))

/-- One request that is logged as all of them. -/
def forged (first : AccessEntry) (rest : List AccessEntry) : AccessEntry :=
  let last := (first :: rest).getLast (List.cons_ne_nil first rest)
  { first with
    path := forgedPath first rest, status := last.status, size := last.size, tenths := last.tenths }

theorem line_forged_cons (first next : AccessEntry) (rest : List AccessEntry) :
    (forged first (next :: rest)).line = first.line ++ '\n' :: (forged next rest).line := by
  simp [line, forged, forgedPath]

theorem accessLog_forged (first : AccessEntry) (rest : List AccessEntry) :
    accessLog [forged first rest] = accessLog (first :: rest) := by
  induction rest generalizing first with
  | nil => rfl
  | cons next rest ih =>
      have later := ih next
      simp only [accessLog, List.map_cons, List.map_nil, terminated_cons] at later ⊢
      rw [line_forged_cons, ← later, List.append_assoc, List.cons_append]

example :
    (forged { client := "10.0.0.7:4711".toList, method := "GET".toList, path := "/a".toList,
              status := 200, size := 12, tenths := 3, method_clean := by decide }
      [{ client := "10.0.0.8:53".toList, method := "PUT".toList, path := "/b".toList,
         status := 404, size := 0, tenths := 21, method_clean := by decide }]).path =
      "/a\" 200 12 0.3ms\nINFO rustwasgi: 10.0.0.8:53 \"PUT /b".toList := by
  decide

theorem forgedPath_head {first : AccessEntry} (rooted : first.path.head? = some '/')
    (rest : List AccessEntry) : (forgedPath first rest).head? = some '/' := by
  cases rest with
  | nil => exact rooted
  | cons next rest => rw [forgedPath, List.head?_append, rooted, Option.some_or]

/-- An upper case hexadecimal digit. -/
def hexDigit (value : ℕ) : Char :=
  Char.ofNat (if value < 10 then 48 + value else 55 + value)

/-- Every byte of the text as an escape. -/
def escapeAll (text : Text) : Text :=
  (Utf8.encode text).flatMap fun byte =>
    ['%', hexDigit (byte.toNat / 16), hexDigit (byte.toNat % 16)]

theorem hexDigit_writes {value : ℕ} (small : value < 16) :
    ∃ digit, String.utf8EncodeChar (hexDigit value) = [digit] ∧ IsHexDigit digit value := by
  refine ⟨UInt8.ofNat (hexDigit value).toNat, ?_⟩
  have all : ∀ value : Fin 16,
      String.utf8EncodeChar (hexDigit value) = [UInt8.ofNat (hexDigit value).toNat] ∧
        IsHexDigit (UInt8.ofNat (hexDigit value).toNat) value := by
    decide
  exact all ⟨value, small⟩

theorem encodes_escapes (bytes : Utf8.Bytes) :
    Encodes bytes (Utf8.encode (bytes.flatMap fun byte =>
      ['%', hexDigit (byte.toNat / 16), hexDigit (byte.toNat % 16)])) := by
  induction bytes with
  | nil => exact .nil
  | cons byte bytes ih =>
      have size := byte.toNat_lt
      have below : byte.toNat / 16 < 16 := by omega
      have within : byte.toNat % 16 < 16 := Nat.mod_lt _ (by decide)
      rcases hexDigit_writes below with ⟨high, writesHigh, first⟩
      rcases hexDigit_writes within with ⟨low, writesLow, second⟩
      have percent : String.utf8EncodeChar '%' = [sign] := by decide
      rw [List.flatMap_cons]
      simp only [List.cons_append, List.nil_append, Utf8.encode_cons, percent, writesHigh,
        writesLow]
      exact .escape first second (by omega) ih

theorem percentDecode_escapeAll (text : Text) :
    percentDecode ('/' :: escapeAll text) = some ('/' :: text) := by
  have slash : String.utf8EncodeChar '/' = [0x2F] := by decide
  have encodes : Encodes (Utf8.encode ('/' :: text)) (Utf8.encode ('/' :: escapeAll text)) := by
    rw [Utf8.encode_cons, Utf8.encode_cons, slash]
    exact .literal (by decide) (encodes_escapes _)
  rcases encodes.scan with ⟨tokens, scan, read⟩
  rw [percentDecode_of_scan scan, read, Utf8.lossy_encode]

/-- A character that may stand in the path of any request. -/
def inPath (c : Char) : Bool :=
  c.isAlphanum || c == '/' || c == '%'

theorem inPath_escapeAll {text : Text} {c : Char} (member : c ∈ escapeAll text) :
    inPath c = true := by
  have all : ∀ value : Fin 16, inPath (hexDigit value) = true := by decide
  rcases List.mem_flatMap.mp member with ⟨byte, _, among⟩
  have below := byte.toNat_lt
  simp only [List.mem_cons, List.not_mem_nil, or_false] at among
  rcases among with rfl | rfl | rfl
  · decide
  · exact all ⟨byte.toNat / 16, by omega⟩
  · exact all ⟨byte.toNat % 16, by omega⟩

end Forgery

/-- The access log can be read back as long as no path holds a line feed, and one entry always.
Otherwise it cannot be trusted: any log whose first path is rooted is also that of a single
request, whose target is plain ASCII. -/
theorem accessLog_readable :
    (∀ addr : SocketAddr, Quotable addr.text) ∧
      (∀ entry other : AccessEntry, Quotable entry.client → Quotable other.client →
        accessLog [entry] = accessLog [other] → entry = other) ∧
      (∀ entries others : List AccessEntry, (∀ entry ∈ entries, entry.Plain) →
        (∀ entry ∈ others, entry.Plain) → accessLog entries = accessLog others →
          entries = others) ∧
      ∀ (first : AccessEntry) (rest : List AccessEntry), first.path.head? = some '/' →
        ∃ target : Text, target.head? = some '/' ∧ (∀ c ∈ target, inPath c = true) ∧
          ∃ entry : AccessEntry, percentDecode target = some entry.path ∧
            entry.client = first.client ∧ entry.method = first.method ∧
              accessLog [entry] = accessLog (first :: rest) := by
  refine ⟨quotable_socketAddr, ?_, fun _ _ plain plain' same => accessLog_inj plain plain' same,
    ?_⟩
  · intro entry other quotable quotable' same
    simp only [accessLog, List.map_cons, List.map_nil, terminated_cons] at same
    exact AccessEntry.line_inj quotable quotable' (List.append_cancel_right same)
  · intro first rest rooted
    have starts := forgedPath_head rooted rest
    cases path : forgedPath first rest with
    | nil => simp [path] at starts
    | cons c later =>
        rw [path, List.head?_cons, Option.some.injEq] at starts
        subst starts
        refine ⟨'/' :: escapeAll later, rfl, ?_, forged first rest, ?_, rfl, rfl,
          accessLog_forged first rest⟩
        · intro c member
          rcases List.mem_cons.mp member with rfl | among
          · decide
          · exact inPath_escapeAll among
        · rw [percentDecode_escapeAll, ← path]
          rfl

end RustAsgi
