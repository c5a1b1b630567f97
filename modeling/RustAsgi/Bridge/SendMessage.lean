import RustAsgi.Encoding.Utf8
import RustAsgi.Http.Handle
import RustAsgi.Python.Object
import RustAsgi.WebSocket.Drive

/-!
# What `send()` accepts

`SendSink._push` and `WsSink._push` with the parsers they call on the message of the
application. The rules of the ASGI specification are stated beside the parsers, as
relations between a message and the event that it means.
-/

namespace RustAsgi

open Fallible Python Tokio

/-- `as_bytes`. -/
def asBytes : Object → Except PyErr Bytes
  | .bytes data | .bytearray data => .ok data
  | .none => .ok []
  | _ => .error (valueError "expected bytes")

/-- `ws_bytes`. -/
def wsBytes : Object → Except PyErr Bytes
  | .bytes data | .bytearray data => .ok data
  | _ => .error (valueError "expected bytes")

/-- `map_err(|_| PyValueError::new_err(message))`. -/
def orValueError {Value : Type} (message : String) : Except PyErr Value → Except PyErr Value :=
  Except.mapError fun _ => valueError message

def extractHeaderPair (pair : Object) : Except PyErr Header := do
  let seq ← okOr pair.asSequence
    (valueError "send(): headers must be 2-item (name, value) sequences")
  ensure (seq.len = 2) (valueError "send(): headers must be 2-item (name, value) sequences")
  let first ← seq.getItem 0
  let name ← orValueError "send(): header names must be bytes" (asBytes first)
  let second ← seq.getItem 1
  let value ← orValueError "send(): header values must be bytes" (asBytes second)
  .ok (name, value)

def isAsciiUppercase (byte : UInt8) : Bool :=
  65 ≤ byte && byte ≤ 90

/-- `b"transfer-encoding"`. -/
def transferEncoding : Bytes :=
  Utf8.encode "transfer-encoding".toList

/-- One round of the loop over the headers. The server owns the framing. -/
def acceptHeader (pair : Object) : Except PyErr (List Header) := do
  let header ← extractHeaderPair pair
  ensure (header.1.any isAsciiUppercase = false)
    (valueError "send(): response header names must be lowercase")
  ensure (header.1.head? ≠ some 58) (valueError "send(): pseudo-headers are not allowed")
  .ok (if header.1 = transferEncoding then [] else [header])

/-- The type of a message. -/
def messageType (message : Mapping) : Except PyErr String := do
  let value ← okOr (message "type") (valueError "send(): message missing 'type'")
  okOr value.extractString (valueError "send(): message 'type' must be str")

def parseHeaders (message : Mapping) : Except PyErr (List Header) :=
  match message "headers" with
  | none => .ok []
  | some raw => do
      let items ← okOr raw.iter (valueError "send(): 'headers' must be iterable")
      items.collect acceptHeader

/-- The `http.response.start` arm of `parse_send_message`. -/
def parseStart (message : Mapping) : Except PyErr ResponseEvent := do
  let value ← okOr (message "status")
    (valueError "send(): http.response.start missing 'status'")
  let status ← okOr value.extractU16 (valueError "send(): 'status' must be an integer")
  ensure (100 ≤ status ∧ status ≤ 599)
    (valueError ("send(): invalid HTTP status " ++ toString status))
  ensure ((message "trailers").bind Object.extractBool ≠ some true)
    (valueError "send(): HTTP trailers are not supported by this server")
  let headers ← parseHeaders message
  .ok (.start status headers)

def parseData (message : Mapping) : Except PyErr Bytes :=
  match message "body" with
  | some value => orValueError "send(): 'body' must be bytes" (asBytes value)
  | none => .ok []

/-- The `http.response.body` arm of `parse_send_message`. -/
def parseBody (message : Mapping) : Except PyErr ResponseEvent := do
  let data ← parseData message
  .ok (.body data (((message "more_body").bind Object.extractBool).getD false))

/-- `debug` writes a string as `{:?}` does. -/
def parseSendMessage (debug : String → String) (message : Mapping) :
    Except PyErr ResponseEvent := do
  let type ← messageType message
  if type = "http.response.start" then parseStart message
  else if type = "http.response.body" then parseBody message
  else if type = "http.response.trailers" then
    .error (valueError "send(): HTTP trailers are not supported by this server")
  else .error (valueError ("send(): unsupported message type " ++ debug type))

/-- The `websocket.send` arm of `parse_ws_message`. -/
def parseWsSend (message : Mapping) : Except PyErr WsEvent :=
  match message "text", message "bytes" with
  | some value, none => do
      let text ← okOr value.extractString (valueError "send(): 'text' must be str")
      .ok (.sendText text)
  | none, some value => do
      let data ← orValueError "send(): 'bytes' must be bytes" (wsBytes value)
      .ok (.sendBytes data)
  | some _, some _ => .error (valueError "send(): 'text' and 'bytes' are mutually exclusive")
  | none, none => .error (valueError "send(): websocket.send needs 'text' or 'bytes'")

/-- The `websocket.close` arm of `parse_ws_message`. -/
def parseWsClose (message : Mapping) : WsEvent :=
  .close (((message "code").bind Object.extractU16).getD 1000)
    (((message "reason").bind Object.extractString).getD "")

def parseWsMessage (debug : String → String) (message : Mapping) : Except PyErr WsEvent := do
  let type ← messageType message
  if type = "websocket.accept" then .ok .accept
  else if type = "websocket.send" then parseWsSend message
  else if type = "websocket.close" then .ok (parseWsClose message)
  else .error (valueError ("send(): unsupported message type " ++ debug type))

/-- The Rust end of `send()`. -/
structure Sink (Event : Type) where
  chan : Mpsc Event
  disconnected : Bool

/-- How `_push` returns: at once, or with an awaitable for the parked send. -/
inductive Pushed where
  | now
  | pending
  deriving DecidableEq, Repr

namespace Sink

variable {Event : Type}

/-- `_push`; `behind` means that parked sends have reserved the free slots. -/
def push (parse : Mapping → Except PyErr Event) (subject : String) (behind : Bool)
    (sink : Sink Event) (message : Mapping) : Except PyErr Pushed × Sink Event :=
  if sink.disconnected then
    (.error (osError ("ASGI send(): " ++ subject ++ " closed (send after disconnect)")), sink)
  else
    match parse message with
    | .error error => (.error error, sink)
    | .ok event =>
        if !sink.chan.receiver then
          (.error (osError ("ASGI send(): " ++ subject ++ " closed")), sink)
        else if sink.chan.hasRoom && (!behind || sink.chan.parked.isEmpty) then
          (.ok .now, { sink with chan := sink.chan.accept event })
        else (.ok .pending, { sink with chan := sink.chan.park event })

end Sink

/-- `SendSink::_push`. -/
def SendSink.push (debug : String → String) :
    Bool → Sink ResponseEvent → Mapping → Except PyErr Pushed × Sink ResponseEvent :=
  Sink.push (parseSendMessage debug) "connection"

/-- `WsSink::_push`. -/
def WsSink.push (debug : String → String) :
    Bool → Sink WsEvent → Mapping → Except PyErr Pushed × Sink WsEvent :=
  Sink.push (parseWsMessage debug) "websocket"

/-- A byte string and its bytes. -/
inductive IsBytes : Object → Bytes → Prop where
  | bytes (data : Bytes) : IsBytes (.bytes data) data
  | bytearray (data : Bytes) : IsBytes (.bytearray data) data

/-- A header as the specification has it: a pair of byte strings with a lowercase name. -/
inductive IsHeader : Object → Header → Prop where
  | pair {first second : Object} {name value : Bytes} (name_ : IsBytes first name)
      (value_ : IsBytes second value) (lowercase : ∀ byte ∈ name, isAsciiUppercase byte = false)
      (regular : name.head? ≠ some 58) :
      IsHeader (.sequence [first, second] none) (name, value)

/-- The headers that the message gives, all of them in order. -/
inductive GivesHeaders (message : Mapping) : List Header → Prop where
  | absent (absent : message "headers" = none) : GivesHeaders message []
  | items {raw : Object} {items : List Object} {headers : List Header}
      (present : message "headers" = some raw)
      (yields : raw.iter = some { items, raises := none })
      (all : List.Forall₂ IsHeader items headers) : GivesHeaders message headers

def HasType (message : Mapping) (type : String) : Prop :=
  message "type" = some (.ofString type)

/-- The event that a message to an HTTP connection means. -/
inductive HttpMeans (message : Mapping) : ResponseEvent → Prop where
  | start {value : Object} {status : ℕ} {headers : List Header}
      (type : HasType message "http.response.start")
      (status_ : message "status" = some value ∧ value.index = some (status : ℤ))
      (range : 100 ≤ status ∧ status ≤ 599)
      (trailers : message "trailers" ≠ some (.bool true))
      (headers_ : GivesHeaders message headers) :
      HttpMeans message
        (.start status (headers.filter fun header => header.1 ≠ transferEncoding))
  | body {data : Bytes} {moreBody : Bool} (type : HasType message "http.response.body")
      (data_ : message "body" = none ∧ data = [] ∨
        ∃ value, message "body" = some value ∧ IsBytes value data)
      (more : moreBody = true ↔ message "more_body" = some (.bool true)) :
      HttpMeans message (.body data moreBody)

/-- No value under the key, or `None`. -/
def Missing (value : Option Object) : Prop :=
  value = none ∨ value = some .none

/-- The event that a message to a WebSocket connection means. -/
inductive WsMeans (message : Mapping) : WsEvent → Prop where
  | accept (type : HasType message "websocket.accept") : WsMeans message .accept
  | sendText {text : String} (type : HasType message "websocket.send")
      (text_ : message "text" = some (.ofString text)) (bytes : Missing (message "bytes")) :
      WsMeans message (.sendText text)
  | sendBytes {value : Object} {data : Bytes} (type : HasType message "websocket.send")
      (text : Missing (message "text")) (bytes : message "bytes" = some value)
      (data_ : IsBytes value data) :
      WsMeans message (.sendBytes data)
  | close (type : HasType message "websocket.close") : WsMeans message (parseWsClose message)

/-- `None` does not stand for a byte string of a response, and no `websocket.send` has `None`
beside its data. -/
structure NoneFree (message : Mapping) : Prop where
  body : HasType message "http.response.body" → message "body" ≠ some .none
  headers : HasType message "http.response.start" → ∀ raw items first second raises,
    message "headers" = some raw → raw.iter = some items →
    .sequence [first, second] raises ∈ items.items → first ≠ .none ∧ second ≠ .none
  data : HasType message "websocket.send" → ∀ text bytes, message "text" = some text →
    message "bytes" = some bytes → (text = .none ↔ bytes = .none)

section Parsers

variable {debug : String → String} {message : Mapping}

theorem wsBytes_eq_ok {object : Object} {data : Bytes} :
    wsBytes object = .ok data ↔ IsBytes object data := by
  constructor
  · intro read
    cases object with
    | bytes data => cases read; exact .bytes data
    | bytearray data => cases read; exact .bytearray data
    | _ => cases read
  · rintro (_ | _)
    · rfl
    · rfl

theorem asBytes_eq_ok {object : Object} {data : Bytes} (given : object ≠ .none) :
    asBytes object = .ok data ↔ IsBytes object data := by
  rw [← wsBytes_eq_ok]
  cases object with
  | none => exact absurd rfl given
  | _ => rfl

/-- The items of a string are strings, and those of a byte string are integers. -/
theorem extractHeaderPair_cases {pair : Object} {header : Header}
    (extracted : extractHeaderPair pair = .ok header) :
    ∃ first second, pair = .sequence [first, second] none ∧ asBytes first = .ok header.1 ∧
      asBytes second = .ok header.2 := by
  simp only [extractHeaderPair, bind_eq_ok, okOr_eq_ok, ensure_eq_ok, Items.getItem_eq_ok,
    orValueError, mapError_eq_ok, Except.ok.injEq] at extracted
  rcases extracted with ⟨seq, cast, _, len, first, firstAt, name, nameRead, second, secondAt, value,
    valueRead, rfl⟩
  cases pair with
  | str text =>
      cases cast
      simp only [List.getElem?_map, Option.map_eq_some_iff] at firstAt
      rcases firstAt with ⟨_, _, rfl⟩
      cases nameRead
  | bytes data | bytearray data =>
      cases cast
      simp only [List.getElem?_map, Option.map_eq_some_iff] at firstAt
      rcases firstAt with ⟨_, _, rfl⟩
      cases nameRead
  | sequence items raises =>
      cases cast
      rcases items with _ | ⟨_, _ | ⟨_, _ | ⟨_, rest⟩⟩⟩
      · cases firstAt
      · cases secondAt
      · cases raises with
        | none =>
            cases firstAt
            cases secondAt
            exact ⟨first, second, rfl, nameRead, valueRead⟩
        | some error => cases len
      · simp only [Items.len, List.length_cons] at len
        omega
  | none | bool | int | iterable | other => cases cast

theorem extractHeaderPair_eq_ok {pair : Object} {header : Header}
    (given : ∀ first second raises, pair = .sequence [first, second] raises →
      first ≠ .none ∧ second ≠ .none) :
    extractHeaderPair pair = .ok header ↔
      ∃ first second, pair = .sequence [first, second] none ∧ IsBytes first header.1 ∧
        IsBytes second header.2 := by
  constructor
  · intro extracted
    rcases extractHeaderPair_cases extracted with ⟨first, second, rfl, name, value⟩
    rcases given first second none rfl with ⟨firstGiven, secondGiven⟩
    exact ⟨first, second, rfl, (asBytes_eq_ok firstGiven).mp name,
      (asBytes_eq_ok secondGiven).mp value⟩
  · rintro ⟨first, second, rfl, name, value⟩
    rcases given first second none rfl with ⟨firstGiven, secondGiven⟩
    have nameRead := (asBytes_eq_ok firstGiven).mpr name
    have valueRead := (asBytes_eq_ok secondGiven).mpr value
    simp [extractHeaderPair, bind_eq_ok, Object.asSequence, Object.iter, Items.len,
      Items.getItem_eq_ok, orValueError, nameRead, valueRead]

theorem acceptHeader_eq_ok {pair : Object} {headers : List Header}
    (given : ∀ first second raises, pair = .sequence [first, second] raises →
      first ≠ .none ∧ second ≠ .none) :
    acceptHeader pair = .ok headers ↔
      ∃ header, IsHeader pair header ∧
        (if header.1 = transferEncoding then [] else [header]) = headers := by
  simp only [acceptHeader, bind_eq_ok, ensure_eq_ok, extractHeaderPair_eq_ok given,
    Except.ok.injEq]
  constructor
  · rintro ⟨header, ⟨first, second, rfl, name, value⟩, _, lowercase, _, regular, kept⟩
    refine ⟨header, .pair name value ?_ regular, kept⟩
    intro byte member
    simpa using List.any_eq_false.mp lowercase byte member
  · rintro ⟨_, ⟨name, value, lowercase, regular⟩, kept⟩
    refine ⟨_, ⟨_, _, rfl, name, value⟩, ⟨⟩, ?_, ⟨⟩, regular, kept⟩
    apply List.any_eq_false.mpr
    intro byte member
    simpa using lowercase byte member

theorem flatMap_accepted (headers : List Header) :
    (headers.flatMap fun header => if header.1 = transferEncoding then [] else [header]) =
      headers.filter fun header => header.1 ≠ transferEncoding := by
  induction headers with
  | nil => rfl
  | cons header rest ih =>
      rw [List.flatMap_cons, ih]
      by_cases owned : header.1 = transferEncoding
      · simp [owned]
      · simp [owned]

theorem parseHeaders_eq_ok {headers : List Header} (noneFree : NoneFree message)
    (type : HasType message "http.response.start") :
    parseHeaders message = .ok headers ↔
      ∃ given, GivesHeaders message given ∧
        (given.filter fun header => header.1 ≠ transferEncoding) = headers := by
  cases present : message "headers" with
  | none =>
      simp only [parseHeaders, present, Except.ok.injEq]
      constructor
      · rintro rfl
        exact ⟨[], .absent present, rfl⟩
      · rintro ⟨_, _ | ⟨given, _, _⟩, rfl⟩
        · rfl
        · rw [present] at given
          cases given
  | some raw =>
      simp only [parseHeaders, present, bind_eq_ok, okOr_eq_ok, Items.collect_eq_ok]
      have round : ∀ items : Items, raw.iter = some items → ∀ item ∈ items.items, ∀ outputs,
          acceptHeader item = .ok outputs ↔ ∃ header, IsHeader item header ∧
            (if header.1 = transferEncoding then [] else [header]) = outputs := by
        intro items yields item member outputs
        apply acceptHeader_eq_ok
        intro first second raises same
        exact noneFree.headers type raw _ first second raises present yields (same ▸ member)
      constructor
      · rintro ⟨items, yields, complete, collected⟩
        rcases (collect_eq_ok (round items yields)).mp collected with ⟨given, all, rfl⟩
        rcases items with ⟨items, _⟩
        cases complete
        exact ⟨given, .items present yields all, (flatMap_accepted given).symm⟩
      · rintro ⟨_, absent | ⟨present', yields, all⟩, rfl⟩
        · rw [present] at absent
          cases absent
        · cases present.symm.trans present'
          exact ⟨_, yields, rfl,
            (collect_eq_ok (round _ yields)).mpr ⟨_, all, flatMap_accepted _⟩⟩

theorem messageType_eq_ok {type : String} :
    messageType message = .ok type ↔ HasType message type := by
  simp [messageType, bind_eq_ok, HasType]

theorem extractBool_eq_true {value : Option Object} :
    value.bind Object.extractBool = some true ↔ value = some (.bool true) := by
  simp [Option.bind_eq_some_iff]

/-- A flag that is not the boolean `True` counts as unset. -/
theorem getD_extractBool {value : Option Object} :
    (value.bind Object.extractBool).getD false = true ↔ value = some (.bool true) := by
  rw [← extractBool_eq_true]
  cases value.bind Object.extractBool <;> simp

theorem parseStart_eq_ok {event : ResponseEvent} (noneFree : NoneFree message)
    (type : HasType message "http.response.start") :
    parseStart message = .ok event ↔
      ∃ (value : Object) (status : ℕ) (headers : List Header),
        (message "status" = some value ∧ value.index = some (status : ℤ)) ∧
        (100 ≤ status ∧ status ≤ 599) ∧ message "trailers" ≠ some (.bool true) ∧
        GivesHeaders message headers ∧
        .start status (headers.filter fun header => header.1 ≠ transferEncoding) = event := by
  simp only [parseStart, bind_eq_ok, okOr_eq_ok, ensure_eq_ok, Object.extractU16_eq_some, ne_eq,
    extractBool_eq_true, parseHeaders_eq_ok noneFree type, Except.ok.injEq]
  constructor
  · rintro ⟨value, present, status, ⟨index, _⟩, _, range, _, trailers, _, ⟨headers, given, rfl⟩,
      rfl⟩
    exact ⟨value, status, headers, ⟨present, index⟩, range, trailers, given, rfl⟩
  · rintro ⟨value, status, headers, ⟨present, index⟩, range, trailers, given, rfl⟩
    exact ⟨value, present, status, ⟨index, by omega⟩, ⟨⟩, range, ⟨⟩, trailers, _,
      ⟨headers, given, rfl⟩, rfl⟩

theorem parseData_eq_ok {data : Bytes} (given : message "body" ≠ some .none) :
    parseData message = .ok data ↔ message "body" = none ∧ data = [] ∨
      ∃ value, message "body" = some value ∧ IsBytes value data := by
  cases present : message "body" with
  | none => simp [parseData, present, eq_comm]
  | some value =>
      have bytes : value ≠ .none := by
        rintro rfl
        exact given present
      simp [parseData, present, orValueError, asBytes_eq_ok bytes]

theorem parseBody_eq_ok {event : ResponseEvent} (given : message "body" ≠ some .none) :
    parseBody message = .ok event ↔
      ∃ data moreBody, (message "body" = none ∧ data = [] ∨
          ∃ value, message "body" = some value ∧ IsBytes value data) ∧
        (moreBody = true ↔ message "more_body" = some (.bool true)) ∧
        .body data moreBody = event := by
  simp only [parseBody, bind_eq_ok, parseData_eq_ok given, Except.ok.injEq]
  constructor
  · rintro ⟨data, read, rfl⟩
    exact ⟨data, _, read, getD_extractBool, rfl⟩
  · rintro ⟨data, moreBody, read, more, rfl⟩
    refine ⟨data, read, ?_⟩
    rw [Bool.eq_iff_iff.mpr (getD_extractBool.trans more.symm)]

theorem parseSendMessage_eq_ok {event : ResponseEvent} (noneFree : NoneFree message) :
    parseSendMessage debug message = .ok event ↔ HttpMeans message event := by
  simp only [parseSendMessage, bind_eq_ok, messageType_eq_ok]
  constructor
  · rintro ⟨type, hasType, parsed⟩
    split at parsed
    next start =>
      subst start
      rcases (parseStart_eq_ok noneFree hasType).mp parsed with
        ⟨value, status, headers, found, range, trailers, given, rfl⟩
      exact .start hasType found range trailers given
    next =>
      split at parsed
      next body =>
        subst body
        rcases (parseBody_eq_ok (noneFree.body hasType)).mp parsed with
          ⟨data, moreBody, read, more, rfl⟩
        exact .body hasType read more
      next => split at parsed <;> cases parsed
  · intro means
    cases means with
    | start type found range trailers given =>
        refine ⟨_, type, ?_⟩
        rw [if_pos rfl]
        exact (parseStart_eq_ok noneFree type).mpr
          ⟨_, _, _, found, range, trailers, given, rfl⟩
    | body type read more =>
        refine ⟨_, type, ?_⟩
        rw [if_neg (by decide), if_pos rfl]
        exact (parseBody_eq_ok (noneFree.body type)).mpr ⟨_, _, read, more, rfl⟩

theorem parseWsSend_eq_ok {event : WsEvent} (noneFree : NoneFree message)
    (type : HasType message "websocket.send") :
    parseWsSend message = .ok event ↔
      (∃ text, message "text" = some (.ofString text) ∧ Missing (message "bytes") ∧
        .sendText text = event) ∨
      ∃ value data, Missing (message "text") ∧ message "bytes" = some value ∧
        IsBytes value data ∧ .sendBytes data = event := by
  have data := noneFree.data type
  cases text : message "text" with
  | none =>
      cases bytes : message "bytes" with
      | none => simp [parseWsSend, text, bytes]
      | some value =>
          simp [parseWsSend, text, bytes, bind_eq_ok, orValueError, wsBytes_eq_ok, Missing]
  | some value =>
      cases bytes : message "bytes" with
      | none => simp [parseWsSend, text, bytes, bind_eq_ok, Missing]
      | some other =>
          have both := data value other text bytes
          simp only [parseWsSend, text, bytes, Missing, reduceCtorEq, Option.some.injEq, false_or,
            false_iff, not_or]
          refine ⟨?_, ?_⟩
          · rintro ⟨_, rfl, missing, _⟩
            cases both.mpr missing
          · rintro ⟨_, _, missing, rfl, isBytes, _⟩
            cases both.mp missing
            cases isBytes

theorem parseWsMessage_eq_ok {event : WsEvent} (noneFree : NoneFree message) :
    parseWsMessage debug message = .ok event ↔ WsMeans message event := by
  simp only [parseWsMessage, bind_eq_ok, messageType_eq_ok]
  constructor
  · rintro ⟨type, hasType, parsed⟩
    split at parsed
    next accept =>
      subst accept
      cases parsed
      exact .accept hasType
    next =>
      split at parsed
      next send =>
        subst send
        rcases (parseWsSend_eq_ok noneFree hasType).mp parsed with
          ⟨text, given, missing, rfl⟩ | ⟨value, data, missing, given, isBytes, rfl⟩
        · exact .sendText hasType given missing
        · exact .sendBytes hasType missing given isBytes
      next =>
        split at parsed
        next close =>
          subst close
          cases parsed
          exact .close hasType
        next => cases parsed
  · intro means
    cases means with
    | accept type => exact ⟨_, type, if_pos rfl⟩
    | sendText type given missing =>
        refine ⟨_, type, ?_⟩
        rw [if_neg (by decide), if_pos rfl]
        exact (parseWsSend_eq_ok noneFree type).mpr (.inl ⟨_, given, missing, rfl⟩)
    | sendBytes type missing given isBytes =>
        refine ⟨_, type, ?_⟩
        rw [if_neg (by decide), if_pos rfl]
        exact (parseWsSend_eq_ok noneFree type).mpr (.inr ⟨_, _, missing, given, isBytes, rfl⟩)
    | close type =>
        refine ⟨_, type, ?_⟩
        rw [if_neg (by decide), if_neg (by decide), if_pos rfl]

/-- What the parser promises of a status holds of every event that enters the channel. -/
theorem accepted_of_parse {event : ResponseEvent}
    (parsed : parseSendMessage debug message = .ok event) : event.accepted = true := by
  cases event with
  | body => rfl
  | start status headers =>
      simp only [parseSendMessage, bind_eq_ok] at parsed
      rcases parsed with ⟨type, _, parsed⟩
      split at parsed
      next =>
        simp only [parseStart, bind_eq_ok, ensure_eq_ok, Except.ok.injEq,
          ResponseEvent.start.injEq] at parsed
        rcases parsed with ⟨_, _, _, _, _, range, _, _, _, _, rfl, _⟩
        simpa [ResponseEvent.accepted] using range
      next =>
        split at parsed
        next =>
          simp only [parseBody, bind_eq_ok, Except.ok.injEq, reduceCtorEq, and_false,
            exists_false] at parsed
        next => split at parsed <;> cases parsed

end Parsers

namespace Sink

variable {Event : Type} {parse : Mapping → Except PyErr Event} {subject : String} {behind : Bool}
  {sink after : Sink Event} {message : Mapping} {error : PyErr} {pushed : Pushed}

/-- A call that raises leaves the channel as it was. -/
theorem push_error (raised : (sink.push parse subject behind message).1 = .error error) :
    (sink.push parse subject behind message).2 = sink := by
  simp only [push] at raised ⊢
  split at raised
  next disconnected => rw [if_pos disconnected]
  next connected =>
    rw [if_neg connected]
    split at raised
    next => rfl
    next =>
      split at raised
      next closed => rw [if_pos closed]
      next => split at raised <;> cases raised

/-- A call that returns has put the event of the message into the channel, or parked it. -/
theorem push_ok (returned : sink.push parse subject behind message = (.ok pushed, after)) :
    ∃ event, parse message = .ok event ∧ sink.disconnected = false ∧ sink.chan.receiver = true ∧
      (pushed = .now ∧ sink.chan.hasRoom = true ∧
          after = { sink with chan := sink.chan.accept event } ∨
        pushed = .pending ∧ (sink.chan.hasRoom && sink.chan.parked.isEmpty) = false ∧
          after = { sink with chan := sink.chan.park event }) := by
  simp only [push] at returned
  split at returned
  next => cases returned
  next connected =>
    split at returned
    next => cases returned
    next event parsed =>
      split at returned
      next => cases returned
      next receiver =>
        refine ⟨event, parsed, by simpa using connected, by simpa using receiver, ?_⟩
        split at returned
        next room =>
          cases returned
          rw [Bool.and_eq_true] at room
          exact .inl ⟨rfl, room.1, rfl⟩
        next full =>
          cases returned
          refine .inr ⟨rfl, ?_, rfl⟩
          rw [Bool.and_eq_true, not_and, Bool.or_eq_true, not_or] at full
          rw [Bool.and_eq_false_iff, or_iff_not_imp_left, Bool.not_eq_false]
          intro room
          exact Bool.eq_false_iff.mpr (full room).2

end Sink

/-- What the machine of a request takes for a push is one of a message that has been accepted. -/
theorem push_of_sendSink {debug : String → String} {behind : Bool} {message : Mapping}
    {s : Http} {pushed : Pushed} {after : Sink ResponseEvent} (senders : s.chan.senders = true)
    (returned : SendSink.push debug behind { chan := s.chan, disconnected := s.disconnected }
      message = (.ok pushed, after)) :
    ∃ event, parseSendMessage debug message = .ok event ∧
      s.push event (decide (pushed = .pending)) = some { s with chan := after.chan } := by
  rcases Sink.push_ok returned with ⟨event, parsed, connected, receiver, outcome⟩
  have accepted := accepted_of_parse parsed
  refine ⟨event, parsed, ?_⟩
  simp only at connected receiver
  rcases outcome with ⟨rfl, room, rfl⟩ | ⟨rfl, full, rfl⟩
  · simp only at room
    simp [Http.push, accepted, senders, receiver, connected, room]
  · simp only at full
    simp [Http.push, accepted, senders, receiver, connected, full]

theorem push_of_wsSink {debug : String → String} {behind : Bool} {message : Mapping}
    {s : Ws} {pushed : Pushed} {after : Sink WsEvent} (senders : s.chan.senders = true)
    (returned : WsSink.push debug behind { chan := s.chan, disconnected := s.disconnected }
      message = (.ok pushed, after)) :
    ∃ event, parseWsMessage debug message = .ok event ∧
      s.push event (decide (pushed = .pending)) = some { s with chan := after.chan } := by
  rcases Sink.push_ok returned with ⟨event, parsed, connected, receiver, outcome⟩
  refine ⟨event, parsed, ?_⟩
  simp only at connected receiver
  rcases outcome with ⟨rfl, room, rfl⟩ | ⟨rfl, full, rfl⟩
  · simp only at room
    simp [Ws.push, senders, receiver, connected, room]
  · simp only at full
    simp [Ws.push, senders, receiver, connected, full]

/-- The parsers accept the messages of the specification with what they mean, and no others, unless
`None` plays a part. A message that is rejected leaves the channel unchanged. -/
theorem send_accepts_what_means (debug : String → String) (message : Mapping)
    (noneFree : NoneFree message) :
    (∀ event, parseSendMessage debug message = .ok event ↔ HttpMeans message event) ∧
    (∀ event, parseWsMessage debug message = .ok event ↔ WsMeans message event) ∧
    (∀ behind sink error, (SendSink.push debug behind sink message).1 = .error error →
      (SendSink.push debug behind sink message).2 = sink) ∧
    (∀ behind sink error, (WsSink.push debug behind sink message).1 = .error error →
      (WsSink.push debug behind sink message).2 = sink) :=
  ⟨fun _ => parseSendMessage_eq_ok noneFree, fun _ => parseWsMessage_eq_ok noneFree,
    fun _ _ _ => Sink.push_error, fun _ _ _ => Sink.push_error⟩

/-- A response with the header `x: 1` and an empty `transfer-encoding`. -/
def startMessage (headers : List Object → Object) : Mapping
  | "type" => some (.ofString "http.response.start")
  | "status" => some (.int 200)
  | "headers" =>
      some (headers [.sequence [.bytes transferEncoding, .bytes []] none,
        .sequence [.bytes [120], .bytearray [49]] none])
  | _ => none

def listed : Mapping :=
  startMessage fun items => .sequence items none

def generated : Mapping :=
  startMessage fun items => .iterable items none

theorem noneFree_listed : NoneFree listed where
  body := by simp [HasType, listed, startMessage, Object.ofString]
  headers := by
    intro type raw items first second raises present yields member
    cases present
    cases yields
    simp only [List.mem_cons, List.not_mem_nil, or_false] at member
    rcases member with same | same <;> cases same <;> constructor <;> intro none <;> cases none
  data := by simp [HasType, listed, startMessage, Object.ofString]

theorem send_accepts_what_means_listed :
    parseSendMessage id listed = .ok (.start 200 [([120], [49])]) := by
  have type : HasType listed "http.response.start" := rfl
  have status : listed "status" = some (.int 200) ∧ (Object.int 200).index = some ((200 : ℕ) : ℤ) :=
    ⟨rfl, rfl⟩
  have given : GivesHeaders listed [(transferEncoding, []), ([120], [49])] := by
    have lowercase : (transferEncoding.all fun byte => !isAsciiUppercase byte) = true := rfl
    refine .items rfl rfl (.cons ?_ (.cons ?_ .nil))
    · exact .pair (.bytes _) (.bytes _) (by simpa using lowercase) nofun
    · exact .pair (.bytes _) (.bytearray _) (by simp [isAsciiUppercase]) nofun
  apply ((send_accepts_what_means id listed noneFree_listed).1 _).mpr
  exact HttpMeans.start type status (by decide) nofun given

/-- The headers may come from a generator, which is no sequence. -/
theorem generator_accepted :
    parseSendMessage id generated = .ok (.start 200 [([120], [49])]) ∧
      ∀ raw, generated "headers" = some raw → raw.asSequence.isNone = true := by
  refine ⟨rfl, ?_⟩
  intro raw present
  cases present
  rfl

end RustAsgi
