import RustAsgi.Bridge.SendMessage
import RustAsgi.Multimap
import RustAsgi.Server.Scope

/-!
# Headers from end to end

The header lists of a request and of a response both pass through a header map of the
`http` crate, which keeps the values of one name together. On its way out, a header that
the crate does not take is left out with a warning.
-/

namespace RustAsgi

open Fallible Python

def lowerName (name : String) : String :=
  String.ofList (name.toList.map Char.toLower)

/-- The lines with lowercase names. -/
def lowerLines (lines : List (String × HeaderValue)) : HeaderMap :=
  lines.map (Prod.map lowerName id)

/-- The map that hyper fills from the lines of a request. -/
def HeaderMap.ofLines (lines : List (String × HeaderValue)) : HeaderMap :=
  (Multimap.ofList (lowerLines lines)).iter

def lowerByte (byte : UInt8) : UInt8 :=
  if isAsciiUppercase byte then byte + 32 else byte

/-- The headers that hyper writes: the builder has put those of `head` into a map. -/
def ResponseHead.written (head : ResponseHead) : List Header :=
  (Multimap.ofList (head.headers.map (Prod.map (List.map lowerByte) id))).iter

/-- The headers that a warning is written about. -/
def skippedHeaders (crate : HttpCrate) (headers : List Header) : List Header :=
  headers.filter fun header => !crate.validHeader header

/-- Nothing is lost or added; each name keeps its values in order, and the whole list is in order
where the names do not interleave. -/
structure Preserves (given received : List Header) : Prop where
  byName : ∀ name, (received.filter fun header => header.1 = name) =
    given.filter fun header => header.1 = name
  inOrder : Multimap.Contiguous given → received = given

/-- The pairs that the parser finds in a message. -/
inductive ReadsHeaders (message : Mapping) : List Header → Prop where
  | absent (absent : message "headers" = none) : ReadsHeaders message []
  | items {raw : Object} {items : List Object} {headers : List Header}
      (present : message "headers" = some raw)
      (yields : raw.iter = some { items, raises := none })
      (all : List.Forall₂ (fun item header => extractHeaderPair item = .ok header) items headers) :
      ReadsHeaders message headers

section Preservation

variable {given received : List Header} {header : Header} {lines : List (String × HeaderValue)}

theorem Preserves.mem (preserves : Preserves given received) (member : header ∈ given) :
    header ∈ received := by
  have found : header ∈ received.filter fun other => other.1 = header.1 := by
    rw [preserves.byName header.1]
    exact List.mem_filter.mpr ⟨member, by simp⟩
  exact (List.mem_filter.mp found).1

theorem encode_injective : Function.Injective fun name : String => Utf8.encode name.toList := by
  intro first second same
  have texts : Utf8.lossy (Utf8.encode first.toList) = Utf8.lossy (Utf8.encode second.toList) :=
    congrArg Utf8.lossy same
  rw [Utf8.lossy_encode, Utf8.lossy_encode] at texts
  exact String.toList_inj.mp texts

theorem headerBytes_eq_map (headers : HeaderMap) :
    headerBytes headers =
      headers.map (Prod.map (fun name => Utf8.encode name.toList) HeaderValue.bytes) :=
  rfl

theorem preserves_ofLines (lines : List (String × HeaderValue)) :
    Preserves (headerBytes (lowerLines lines)) (headerBytes (.ofLines lines)) where
  byName := by
    intro name
    have single : ∀ first second : String,
        decide (Utf8.encode first.toList = name) = true →
        decide (Utf8.encode second.toList = name) = true → first = second := by
      intro first second here there
      apply encode_injective
      exact (of_decide_eq_true here).trans (of_decide_eq_true there).symm
    have kept := Multimap.filter_iter_ofList single (lowerLines lines)
    simp only [headerBytes_eq_map, List.filter_map]
    exact congrArg _ kept
  inOrder := by
    intro contiguous
    rw [headerBytes_eq_map] at contiguous
    rw [HeaderMap.ofLines, Multimap.iter_ofList (contiguous.of_map encode_injective)]

/-- Names that are lowercase already are not changed. -/
theorem map_lowerByte {headers : List Header}
    (lowercase : ∀ header ∈ headers, ∀ byte ∈ header.1, isAsciiUppercase byte = false) :
    headers.map (Prod.map (List.map lowerByte) id) = headers := by
  have same : ∀ header ∈ headers, Prod.map (List.map lowerByte) id header = header := by
    intro header member
    apply Prod.ext
    · have bytes : ∀ byte ∈ header.1, lowerByte byte = byte := by
        intro byte inside
        simp [lowerByte, lowercase header member byte inside]
      exact (List.map_congr_left bytes).trans (List.map_id _)
    · rfl
  exact (List.map_congr_left same).trans (List.map_id _)

theorem preserves_written {head : ResponseHead}
    (lowercase : ∀ header ∈ head.headers, ∀ byte ∈ header.1, isAsciiUppercase byte = false) :
    Preserves head.headers head.written where
  byName := by
    intro name
    rw [ResponseHead.written, map_lowerByte lowercase]
    exact Multimap.filter_key_iter_ofList name head.headers
  inOrder := by
    intro contiguous
    rw [ResponseHead.written, map_lowerByte lowercase, Multimap.iter_ofList contiguous]

theorem acceptHeader_cases {pair : Object} (headers : List Header) :
    acceptHeader pair = .ok headers ↔
      ∃ header, (extractHeaderPair pair = .ok header ∧ header.1.any isAsciiUppercase = false ∧
        header.1.head? ≠ some 58) ∧
        (if header.1 = transferEncoding then [] else [header]) = headers := by
  simp [acceptHeader, bind_eq_ok, and_assoc]

/-- The parser passes on what it finds, except for `transfer-encoding`. -/
theorem parseStart_reads {debug : String → String} {message : Mapping} {status : ℕ}
    {headers : List Header}
    (accepted : parseSendMessage debug message = .ok (.start status headers)) :
    ∃ given, ReadsHeaders message given ∧
      (given.filter fun header => header.1 ≠ transferEncoding) = headers ∧
      ∀ header ∈ headers, ∀ byte ∈ header.1, isAsciiUppercase byte = false := by
  have parsed : parseHeaders message = .ok headers := by
    simp only [parseSendMessage, bind_eq_ok] at accepted
    rcases accepted with ⟨type, _, accepted⟩
    split at accepted
    next =>
      simp only [parseStart, bind_eq_ok, Except.ok.injEq, ResponseEvent.start.injEq] at accepted
      rcases accepted with ⟨_, _, _, _, _, _, _, _, _, parsed, _, rfl⟩
      exact parsed
    next =>
      split at accepted
      next => simp [parseBody, bind_eq_ok] at accepted
      next => split at accepted <;> cases accepted
  cases present : message "headers" with
  | none =>
      simp only [parseHeaders, present, Except.ok.injEq] at parsed
      subst parsed
      refine ⟨[], .absent present, rfl, ?_⟩
      intro header member
      cases member
  | some raw =>
      simp only [parseHeaders, present, bind_eq_ok, okOr_eq_ok, Items.collect_eq_ok] at parsed
      rcases parsed with ⟨⟨items, _⟩, yields, rfl, collected⟩
      rcases (collect_eq_ok fun item _ outputs => acceptHeader_cases outputs).mp
        collected with ⟨given, all, rfl⟩
      rw [flatMap_accepted]
      refine ⟨given, .items present yields (all.imp fun _ _ found => found.1), rfl, ?_⟩
      intro header member byte inside
      rcases List.mem_iff_getElem.mp (List.mem_filter.mp member).1 with ⟨index, bound, rfl⟩
      have found := (List.forall₂_iff_get.mp all).2 index (by rw [all.length_eq]; exact bound) bound
      simpa using List.any_eq_false.mp found.2.1 byte inside

/-- Both header lists come through. What is missing of the response has been named in a warning. -/
theorem headers_preserved (config : ScopeConfig) (args : ConnectionArgs) (req : Received)
    (heap : Heap) (lines : List (String × HeaderValue))
    (received : req.parts.headers = .ofLines lines) (debug : String → String) (message : Mapping)
    (status : ℕ) (headers : List Header) (crate : HttpCrate)
    (accepted : parseSendMessage debug message = .ok (.start status headers))
    (builds : crate.builds (headers.filter crate.validHeader) = true) :
    (∀ scope, scopeOfHttp config args req heap = some scope ∨
        scopeOfWs config args req heap = some scope →
      Preserves (headerBytes (lowerLines lines)) scope.1.headers) ∧
    ∃ given, ReadsHeaders message given ∧
      Preserves ((given.filter fun header => header.1 ≠ transferEncoding).filter crate.validHeader)
        (Http.buildResponse crate status headers).written ∧
      ∀ header ∈ given, header.1 = transferEncoding ∨
        header ∈ (Http.buildResponse crate status headers).written ∨
        header ∈ skippedHeaders crate headers := by
  refine ⟨?_, ?_⟩
  · intro scope built
    rw [headers_of_scope built, received]
    exact preserves_ofLines lines
  · rcases parseStart_reads accepted with ⟨given, reads, kept, lowercase⟩
    have head : (Http.buildResponse crate status headers).headers =
        headers.filter crate.validHeader := by
      rw [Http.buildResponse, if_pos builds]
    have written : Preserves (headers.filter crate.validHeader)
        (Http.buildResponse crate status headers).written := by
      rw [← head]
      apply preserves_written
      intro header member
      rw [head] at member
      exact lowercase header (List.mem_filter.mp member).1
    refine ⟨given, reads, kept ▸ written, ?_⟩
    intro header member
    by_cases owned : header.1 = transferEncoding
    · exact .inl owned
    · have inside : header ∈ headers := by
        rw [← kept]
        exact List.mem_filter.mpr ⟨member, by simpa using owned⟩
      cases valid : crate.validHeader header with
      | true => exact .inr (.inl (written.mem (List.mem_filter.mpr ⟨inside, valid⟩)))
      | false => exact .inr (.inr (List.mem_filter.mpr ⟨inside, by simp [valid]⟩))

/-- The bytes that `HeaderName` takes besides letters and digits. -/
def nameMarks : Bytes :=
  Utf8.encode "!#$%&'*+-.^_|~".toList ++ [96]

def nameByte (byte : UInt8) : Bool :=
  (97 ≤ byte && byte ≤ 122) || isAsciiUppercase byte || (48 ≤ byte && byte ≤ 57) ||
    nameMarks.contains byte

/-- The `http` crate, but for the lengths that it takes. -/
def httpCrate : HttpCrate :=
  { validHeader := fun header => header.1 ≠ [] && header.1.all nameByte && header.2.all fieldByte
    builds := fun headers => decide ((headers.map Prod.fst).dedup.length ≤ 24576) }

/-- A host, and two values under one name. -/
def dupLines : List (String × HeaderValue) :=
  [("Host", ⟨[97], by simp [fieldByte]⟩), ("X-Dup", ⟨[49], by simp [fieldByte]⟩),
    ("x-dup", ⟨[50], by simp [fieldByte]⟩)]

def dupRequest : Received :=
  { probe with parts := { probe.parts with headers := .ofLines dupLines } }

theorem headers_preserved_dup :
    (∀ scope, scopeOfHttp mounted loopback dupRequest noObjects = some scope →
      (scope.1.headers.filter fun header => header.1 = Utf8.encode "x-dup".toList) =
        [(Utf8.encode "x-dup".toList, [49]), (Utf8.encode "x-dup".toList, [50])]) ∧
    ∃ given, ReadsHeaders listed given ∧
      Preserves ((given.filter fun header => header.1 ≠ transferEncoding).filter
        httpCrate.validHeader) (Http.buildResponse httpCrate 200 [([120], [49])]).written := by
  have accepted : parseSendMessage id listed = .ok (.start 200 [([120], [49])]) := rfl
  rcases headers_preserved mounted loopback dupRequest noObjects dupLines rfl id listed 200
    [([120], [49])] httpCrate accepted (by decide) with ⟨request, given, reads, response, _⟩
  refine ⟨?_, given, reads, response⟩
  intro scope built
  rw [(request scope (.inl built)).byName]
  decide

/-- A value with a line break passes `send()` and is left out of the response. -/
def folded : Mapping
  | "type" => some (.ofString "http.response.start")
  | "status" => some (.int 200)
  | "headers" => some (.sequence [.sequence [.bytes [120], .bytes [10]] none] none)
  | _ => none

theorem header_left_out :
    parseSendMessage id folded = .ok (.start 200 [([120], [10])]) ∧
      (Http.buildResponse httpCrate 200 [([120], [10])]).written = [] ∧
      skippedHeaders httpCrate [([120], [10])] = [([120], [10])] :=
  ⟨rfl, by decide, by decide⟩

end Preservation

end RustAsgi
