import Mathlib.Data.List.TakeWhile
import RustAsgi.Http.Message
import RustAsgi.Server.Serve
import RustAsgi.Tls.Challenge

/-!
# `handle_request`

What becomes of a request before the application hears of it. The challenges and
the redirect are looked at by `handle_http` alone: an upgrade passes them by.
-/

namespace RustAsgi

open Machine Tls

/-- The crate `tungstenite`: an accept key is the base64 text of a digest. -/
structure Tungstenite where
  deriveAcceptKey : Text → Text
  legal : ∀ key, ∀ c ∈ deriveAcceptKey key, fieldChar c = true

/-- What `handle_request` reads of the worker's state and configuration. -/
structure AppState where
  redirectHttpToHttps : Bool
  /-- An access hook is installed or the access log is on. -/
  accessLog : Bool
  challengeStore : ChallengeStore
  http : HttpCrate
  tungstenite : Tungstenite

/-- What `handle_request` decides to do with a request. -/
inductive Dispatch where
  /-- It returns a reply of its own. -/
  | answered (reply : HttpReply)
  /-- It returns this 101 response and leaves the driver behind. -/
  | upgrade (reply : HttpReply)
  /-- It goes on to `establish_http_call`. -/
  | http (request : Request) (body : Incoming)

def Dispatch.call : Dispatch → Call
  | .answered _ => .immediate
  | .upgrade _ => .websocket
  | .http request body => .http request body

def isWebsocketUpgrade (parts : Parts) : Bool :=
  let upgradeOk := match parts.headers.getStr "upgrade" with
    | some value => Text.eqIgnoreAsciiCase value "websocket".toList
    | none => false
  let connectionOk := match parts.headers.getStr "connection" with
    | some value => (value.splitOn ',').any fun token =>
        Text.eqIgnoreAsciiCase (Text.trim token) "upgrade".toList
    | none => false
  upgradeOk && connectionOk && parts.method == "GET"

/-- The `Sec-WebSocket-Key`, or nothing when it is missing or not readable. -/
def websocketKey (parts : Parts) : Text :=
  (parts.headers.getStr "sec-websocket-key").getD []

/-- `none` is a panic, here and below. -/
def handleWebsocketUpgrade (state : AppState) (parts : Parts) : Option Dispatch :=
  if websocketKey parts = [] then
    (statusResponse 400 "Missing Sec-WebSocket-Key").map .answered
  else
    (buildReply 101
      [("upgrade", "websocket".toList), ("connection", "Upgrade".toList),
        ("sec-websocket-accept", state.tungstenite.deriveAcceptKey (websocketKey parts))]
      []).map .upgrade

/-- A length that cannot be read counts as positive. -/
def positiveLength (value : HeaderValue) : Bool :=
  match value.toStr.bind fun text => Text.parseU64 (Text.trim text) with
  | some length => decide (0 < length)
  | none => true

def hasBody (headers : HeaderMap) : Bool :=
  headers.any fun header =>
    header.1 == "transfer-encoding" || (header.1 == "content-length" && positiveLength header.2)

def challengePath : Text :=
  "/.well-known/acme-challenge/".toList

def answerChallenge (store : ChallengeStore) (token : Text) : Option HttpReply :=
  match if isValidToken token then store.get token else none with
  | some auth =>
      buildReply 200
        [("content-type", "text/plain".toList),
          ("content-length", decimal (Text.byteLength auth))] auth
  | none => statusResponse 404 "Not Found"

/-- `split(['\r', '\n']).next()`. -/
def firstLine (text : Text) : Text :=
  text.takeWhile fun c => c ≠ '\r' && c ≠ '\n'

/-- The host that a redirect names. -/
def redirectHost (serverHost : Text) (parts : Parts) : Text :=
  firstLine ((parts.headers.getStr "host").getD serverHost)

def httpsScheme : Text :=
  "https://".toList

def location (host : Text) (uri : Uri) : Text :=
  httpsScheme ++ host ++ uri.path ++
    match uri.query with
    | some query => '?' :: query
    | none => []

def redirectToHttps (serverHost : Text) (parts : Parts) : Option HttpReply :=
  let host := redirectHost serverHost parts
  if host = [] ∨ ' ' ∈ host then statusResponse 400 "Bad Request"
  else
    let target := location host parts.uri
    if '\r' ∈ target ∨ '\n' ∈ target then statusResponse 400 "Bad Request"
    else buildReply 308 [("location", target), ("content-length", ['0'])] []

/-- `handle_http`, up to the application. -/
def handleHttp (state : AppState) (serverHost : Text) (isTls : Bool) (parts : Parts)
    (body : Incoming) : Option Dispatch :=
  match Text.stripLeading parts.uri.path challengePath with
  | some token => (answerChallenge state.challengeStore token).map .answered
  | none =>
      if state.redirectHttpToHttps && !isTls then
        (redirectToHttps serverHost parts).map .answered
      else
        some (.http { hasBody := hasBody parts.headers, isHead := parts.method == "HEAD",
                      accessLog := state.accessLog, crate := state.http } body)

def handleRequest (state : AppState) (serverHost : Text) (isTls : Bool) (parts : Parts)
    (body : Incoming) : Option Dispatch :=
  if isWebsocketUpgrade parts then handleWebsocketUpgrade state parts
  else handleHttp state serverHost isTls parts body

/-- No handler that this leads to invokes the application. -/
def Dispatch.Uninvoked (dispatch : Dispatch) : Prop :=
  ∀ actions final, run Handler.step (.start dispatch.call) actions = some final →
    ∀ action ∈ actions, action.invokes = false

section Properties

variable (state : AppState) (serverHost : Text) (isTls : Bool) (parts : Parts) (body : Incoming)

/-- The path is under `/.well-known/acme-challenge/`. -/
def IsChallenge : Prop :=
  challengePath <+: parts.uri.path

/-- The request is plain HTTP, and such requests are redirected. -/
def IsPlain : Prop :=
  state.redirectHttpToHttps = true ∧ isTls = false

/-- A stored authorization is the answer. -/
def ChallengeAnswer (reply : HttpReply) : Prop :=
  ∃ token auth, parts.uri.path = challengePath ++ token ∧
    state.challengeStore.get token = some auth ∧
      answerChallenge state.challengeStore token = some reply

/-- The application is kept from plain requests while these are redirected, and from challenges
always. -/
structure KeepsOut : Prop where
  answers : IsPlain state isTls → ∃ reply,
    handleRequest state serverHost isTls parts body = some (.answered reply) ∧
      (ChallengeAnswer state parts reply ∨ reply.status = 404 ∨ reply.status = 400 ∨
        reply.status = 308)
  uninvoked : IsPlain state isTls ∨ IsChallenge parts → ∀ dispatch,
    handleRequest state serverHost isTls parts body = some dispatch → dispatch.Uninvoked

/-- A WebSocket handshake with a key. -/
def OpensWebSocket : Prop :=
  isWebsocketUpgrade parts = true ∧ websocketKey parts ≠ []

/-- The redirect has a host to name, or to refuse: a `Host` header that can be read, or a server
address whose first line has a space or else nothing that a header value does not take. -/
def NamesHost : Prop :=
  (parts.headers.getStr "host").isSome = true ∨ ' ' ∈ firstLine serverHost ∨
    ∀ c ∈ firstLine serverHost, fieldChar c = true

/-- No handshake goes past the checks, and the redirect builds where it is made. -/
structure StopsRequest : Prop where
  closed : IsPlain state isTls ∨ IsChallenge parts → ¬ OpensWebSocket parts
  named : IsPlain state isTls → ¬ IsChallenge parts → isWebsocketUpgrade parts = false →
    NamesHost serverHost parts

end Properties

section Invocation

variable {reply : HttpReply} {request : Request} {body : Incoming}

theorem invokes_of_answering {handler next : Handler} {action : HandlerAction}
    (immediate : handler = .answering ∨ handler = .answered)
    (stepped : handler.step action = some next) :
    next = .answered ∧ action.invokes = false := by
  rcases immediate with rfl | rfl
  · cases action <;> simp [Handler.step] at stepped
    exact ⟨stepped.symm, rfl⟩
  · cases action <;> simp [Handler.step] at stepped

theorem uninvoked_of_answered : (Dispatch.answered reply).Uninvoked := by
  have always : ∀ (actions : List HandlerAction) (handler final : Handler),
      handler = .answering ∨ handler = .answered → run Handler.step handler actions = some final →
      ∀ action ∈ actions, action.invokes = false := by
    intro actions
    induction actions with
    | nil => simp
    | cons first rest ih =>
        intro handler final immediate ran action member
        rcases run_cons_eq_some.mp ran with ⟨next, stepped, ran⟩
        rcases invokes_of_answering immediate stepped with ⟨answered, uninvoked⟩
        rcases List.mem_cons.mp member with rfl | later
        · exact uninvoked
        · exact ih next final (.inr answered) ran action later
  intro actions final ran
  exact always actions .answering final (.inl rfl) ran

theorem not_uninvoked_of_upgrade : ¬ (Dispatch.upgrade reply).Uninvoked := by
  intro uninvoked
  have invoked := uninvoked [.answer, .upgraded true, .ws (.setup true)] _ rfl
    (.ws (.setup true)) (by simp)
  cases invoked

end Invocation

section Replies

variable {state : AppState} {serverHost : Text} {isTls : Bool} {parts : Parts} {body : Incoming}

theorem stripLeading_eq_some {token : Text} :
    Text.stripLeading parts.uri.path challengePath = some token ↔
      parts.uri.path = challengePath ++ token := by
  simp only [Text.stripLeading, Option.ite_none_right_eq_some, Option.some.injEq]
  constructor
  · rintro ⟨under, rfl⟩
    exact (List.prefix_iff_eq_append.mp under).symm
  · intro split
    refine ⟨⟨token, split.symm⟩, ?_⟩
    rw [split, List.drop_left]

theorem stripLeading_eq_none :
    Text.stripLeading parts.uri.path challengePath = none ↔ ¬ IsChallenge parts := by
  simp [Text.stripLeading, IsChallenge]

theorem answerChallenge_of_stored {store : ChallengeStore} {token auth : Text}
    (stored : store.get token = some auth) :
    ∃ reply, answerChallenge store token = some reply ∧ reply.status = 200 ∧
      reply.body = auth := by
  have valid : isValidToken token = true := by
    by_contra invalid
    rw [ChallengeStore.get_of_invalid (Bool.eq_false_iff.mpr invalid)] at stored
    cases stored
  have legal : ∀ header ∈ [("content-type", "text/plain".toList),
      ("content-length", decimal (Text.byteLength auth))],
      ∀ c ∈ header.2, fieldChar c = true := by
    intro header member
    simp only [List.mem_cons, List.not_mem_nil, or_false] at member
    rcases member with rfl | rfl
    · simp [fieldChar]
    · exact fun _ digit => fieldChar_of_decimal _ digit
  have built : buildReply 200 _ auth = _ := buildReply_of_legal legal
  rw [answerChallenge, if_pos valid, stored]
  exact ⟨_, built, rfl, rfl⟩

theorem answerChallenge_of_missing {store : ChallengeStore} {token : Text}
    (missing : store.get token = none) :
    ∃ reply, answerChallenge store token = some reply ∧ reply.status = 404 := by
  rw [answerChallenge, missing, ite_self]
  exact statusResponse_eq 404 "Not Found"

theorem answerChallenge_replies (store : ChallengeStore) (token : Text) :
    ∃ reply, answerChallenge store token = some reply ∧
      ((∃ auth, store.get token = some auth) ∨ reply.status = 404) := by
  cases found : store.get token with
  | some auth =>
      rcases answerChallenge_of_stored found with ⟨reply, built, _⟩
      exact ⟨reply, built, .inl ⟨auth, rfl⟩⟩
  | none =>
      rcases answerChallenge_of_missing found with ⟨reply, built, status⟩
      exact ⟨reply, built, .inr status⟩

theorem mem_firstLine {text : Text} {c : Char} (member : c ∈ firstLine text) :
    c ∈ text ∧ c ≠ '\r' ∧ c ≠ '\n' := by
  have kept := List.mem_takeWhile_imp member
  simp only [ne_eq, decide_not, Bool.and_eq_true, Bool.not_eq_true', decide_eq_false_iff_not]
    at kept
  exact ⟨(List.takeWhile_prefix _).mem member, kept⟩

theorem mem_location {host : Text} {uri : Uri} {c : Char} (member : c ∈ location host uri) :
    c ∈ host ∨ fieldChar c = true ∧ c ≠ '\r' ∧ c ≠ '\n' := by
  have ofTarget : targetChar c = true → fieldChar c = true ∧ c ≠ '\r' ∧ c ≠ '\n' := by
    intro target
    refine ⟨fieldChar_of_targetChar target, ?_, ?_⟩
    · intro same
      rw [same] at target
      exact absurd target (by decide)
    · intro same
      rw [same] at target
      exact absurd target (by decide)
  have ofScheme : ∀ c ∈ httpsScheme, fieldChar c = true ∧ c ≠ '\r' ∧ c ≠ '\n' := by
    have all : httpsScheme.all (fun c => fieldChar c && c != '\r' && c != '\n') = true := by
      decide +kernel
    simpa only [List.all_eq_true, Bool.and_eq_true, bne_iff_ne, and_assoc] using all
  rw [location, List.mem_append, List.mem_append, List.mem_append] at member
  rcases member with ((scheme | host) | path) | query
  · exact .inr (ofScheme c scheme)
  · exact .inl host
  · exact .inr (ofTarget (uri.legalPath c path))
  · cases given : uri.query with
    | none =>
        rw [given] at query
        cases query
    | some text =>
        rw [given] at query
        rcases List.mem_cons.mp query with rfl | member
        · right
          simp [fieldChar]
        · exact .inr (ofTarget (uri.legalQuery text given c member))

theorem not_break_of_location {c : Char}
    (member : c ∈ location (redirectHost serverHost parts) parts.uri) : c ≠ '\r' ∧ c ≠ '\n' := by
  rcases mem_location member with host | ⟨_, other⟩
  · exact (mem_firstLine host).2
  · exact other

theorem redirectToHttps_eq :
    redirectToHttps serverHost parts =
      if redirectHost serverHost parts = [] ∨ ' ' ∈ redirectHost serverHost parts then
        statusResponse 400 "Bad Request"
      else
        buildReply 308
          [("location", location (redirectHost serverHost parts) parts.uri),
            ("content-length", ['0'])] [] := by
  have whole : ¬ ('\r' ∈ location (redirectHost serverHost parts) parts.uri ∨
      '\n' ∈ location (redirectHost serverHost parts) parts.uri) := by
    rintro (member | member)
    · exact (not_break_of_location member).1 rfl
    · exact (not_break_of_location member).2 rfl
  simp only [redirectToHttps, if_neg whole]

theorem redirectToHttps_of_named (named : NamesHost serverHost parts) :
    ∃ reply, redirectToHttps serverHost parts = some reply ∧
      (reply.status = 400 ∨ reply.status = 308) := by
  rw [redirectToHttps_eq]
  split
  next =>
    rcases statusResponse_eq 400 "Bad Request" with ⟨reply, built, status⟩
    exact ⟨reply, built, .inl status⟩
  next usable =>
    have hostLegal : ∀ c ∈ redirectHost serverHost parts, fieldChar c = true := by
      intro c member
      rcases readable : parts.headers.getStr "host" with _ | text
      · rw [redirectHost, readable, Option.getD_none] at member usable
        rcases named with given | spaced | legal
        · rw [readable] at given
          cases given
        · exact absurd (.inr spaced) usable
        · exact legal c member
      · rw [redirectHost, readable, Option.getD_some] at member
        rcases Option.bind_eq_some_iff.mp readable with ⟨value, _, read⟩
        exact fieldChar_of_toStr read c (mem_firstLine member).1
    refine ⟨_, buildReply_of_legal ?_, .inr rfl⟩
    intro header given c member
    simp only [List.mem_cons, List.not_mem_nil, or_false] at given
    rcases given with rfl | rfl
    · rcases mem_location member with host | ⟨legal, _⟩
      · exact hostLegal c host
      · exact legal
    · rw [List.mem_singleton.mp member]
      rfl

theorem redirectToHttps_of_unnamed (unnamed : ¬ NamesHost serverHost parts) :
    redirectToHttps serverHost parts = none := by
  simp only [NamesHost, not_or, not_forall, Bool.not_eq_true] at unnamed
  rcases unnamed with ⟨missing, unspaced, c, member, illegal⟩
  have host : redirectHost serverHost parts = firstLine serverHost := by
    rw [Option.isSome_eq_false_iff, Option.isNone_iff_eq_none] at missing
    rw [redirectHost, missing, Option.getD_none]
  rw [redirectToHttps_eq, host, if_neg]
  · refine buildReply_of_illegal List.mem_cons_self ?_ illegal
    rw [location, List.mem_append, List.mem_append, List.mem_append]
    exact .inl (.inl (.inr member))
  · rintro (empty | spaced)
    · rw [empty] at member
      cases member
    · exact unspaced spaced

theorem handleRequest_of_opens (state : AppState) (serverHost : Text) (isTls : Bool)
    (body : Incoming) (opens : OpensWebSocket parts) :
    ∃ reply, handleRequest state serverHost isTls parts body = some (.upgrade reply) := by
  have legal : ∀ header ∈ [("upgrade", "websocket".toList), ("connection", "Upgrade".toList),
      ("sec-websocket-accept", state.tungstenite.deriveAcceptKey (websocketKey parts))],
      ∀ c ∈ header.2, fieldChar c = true := by
    intro header member
    simp only [List.mem_cons, List.not_mem_nil, or_false] at member
    rcases member with rfl | rfl | rfl
    · exact List.all_eq_true.mp (by decide +kernel)
    · exact List.all_eq_true.mp (by decide +kernel)
    · exact state.tungstenite.legal _
  rw [handleRequest, if_pos opens.1, handleWebsocketUpgrade, if_neg opens.2,
    buildReply_of_legal legal]
  exact ⟨_, rfl⟩

theorem handleRequest_of_not_upgrade (plain : isWebsocketUpgrade parts = false) :
    handleRequest state serverHost isTls parts body =
      handleHttp state serverHost isTls parts body := by
  rw [handleRequest, if_neg (by simp [plain])]

theorem handleHttp_of_plain (isPlain : IsPlain state isTls) (other : ¬ IsChallenge parts) :
    handleHttp state serverHost isTls parts body =
      (redirectToHttps serverHost parts).map .answered := by
  rw [handleHttp, stripLeading_eq_none.mpr other]
  simp only [isPlain.1, isPlain.2, Bool.not_false, Bool.and_self, if_true]

theorem answered_of_stops (body : Incoming)
    (stops : StopsRequest state serverHost isTls parts)
    (checked : IsPlain state isTls ∨ IsChallenge parts) :
    ∃ reply, handleRequest state serverHost isTls parts body = some (.answered reply) ∧
      (ChallengeAnswer state parts reply ∨ reply.status = 404 ∨ reply.status = 400 ∨
        reply.status = 308) := by
  cases upgrades : isWebsocketUpgrade parts with
  | true =>
      have keyless : websocketKey parts = [] := by
        by_contra key
        exact stops.closed checked ⟨upgrades, key⟩
      rcases statusResponse_eq 400 "Missing Sec-WebSocket-Key" with ⟨reply, built, status⟩
      refine ⟨reply, ?_, .inr (.inr (.inl status))⟩
      rw [handleRequest, if_pos upgrades, handleWebsocketUpgrade, if_pos keyless, built]
      rfl
  | false =>
      rw [handleRequest_of_not_upgrade upgrades]
      cases under : Text.stripLeading parts.uri.path challengePath with
      | some token =>
          rcases answerChallenge_replies state.challengeStore token with ⟨reply, built, found⟩
          refine ⟨reply, ?_, ?_⟩
          · rw [handleHttp, under]
            simp only [built, Option.map_some]
          · rcases found with ⟨auth, stored⟩ | missing
            · exact .inl ⟨token, auth, stripLeading_eq_some.mp under, stored, built⟩
            · exact .inr (.inl missing)
      | none =>
          have other := stripLeading_eq_none.mp under
          have isPlain := checked.resolve_right other
          rcases redirectToHttps_of_named (stops.named isPlain other upgrades) with
            ⟨reply, built, status⟩
          refine ⟨reply, ?_, .inr (.inr status)⟩
          rw [handleHttp_of_plain isPlain other, built]
          rfl

/-- Requests are kept from the application exactly as far as no handshake with a key is among
them, and the redirect can be built. -/
theorem keepsOut_iff_stops (state : AppState) (serverHost : Text) (isTls : Bool) (parts : Parts)
    (body : Incoming) :
    KeepsOut state serverHost isTls parts body ↔ StopsRequest state serverHost isTls parts := by
  constructor
  · intro keepsOut
    refine ⟨?_, ?_⟩
    · intro checked opens
      rcases handleRequest_of_opens state serverHost isTls body opens with ⟨reply, dispatched⟩
      exact not_uninvoked_of_upgrade (keepsOut.uninvoked checked _ dispatched)
    · intro isPlain other plain
      by_contra unnamed
      rcases keepsOut.answers isPlain with ⟨reply, dispatched, _⟩
      rw [handleRequest_of_not_upgrade plain, handleHttp_of_plain isPlain other,
        redirectToHttps_of_unnamed unnamed] at dispatched
      cases dispatched
  · intro stops
    refine ⟨fun isPlain => answered_of_stops body stops (.inl isPlain), ?_⟩
    intro checked dispatch dispatched
    rcases answered_of_stops body stops checked with ⟨reply, answered, _⟩
    rw [answered, Option.some.injEq] at dispatched
    subst dispatched
    exact uninvoked_of_answered

end Replies

section Handshake

def ascii (text : String) : Bytes :=
  text.toList.map fun c => UInt8.ofNat c.toNat

/-- A worker that redirects, and its answer to one key. -/
def redirecting : AppState where
  redirectHttpToHttps := true
  accessLog := false
  challengeStore := { inner := [] }
  http := { validHeader := fun _ => true, builds := fun _ => true }
  tungstenite := {
    deriveAcceptKey := fun _ => "s3pPLMBiTxaQ9kYGzzhZRbK+xOo=".toList
    legal := fun _ => List.all_eq_true.mp (by decide +kernel) }

def chatHandshake : Parts where
  method := "GET"
  uri := {
    path := "/chat".toList
    query := none
    legalPath := List.all_eq_true.mp (by decide +kernel)
    legalQuery := nofun }
  headers := [
    ("host", ⟨ascii "localhost", List.all_eq_true.mp (by decide +kernel)⟩),
    ("upgrade", ⟨ascii "websocket", List.all_eq_true.mp (by decide +kernel)⟩),
    ("connection", ⟨ascii "keep-alive, Upgrade", List.all_eq_true.mp (by decide +kernel)⟩),
    ("sec-websocket-key",
      ⟨ascii "dGhlIHNhbXBsZSBub25jZQ==", List.all_eq_true.mp (by decide +kernel)⟩)]

theorem chatHandshake_opens : OpensWebSocket chatHandshake := by
  constructor
  · decide +kernel
  · decide +kernel

/-- On a plain connection the handshake is switched, and its driver invokes the application. -/
theorem handshake_let_in :
    ¬ KeepsOut redirecting "127.0.0.1".toList false chatHandshake (.new [] false) := by
  intro keepsOut
  rcases handleRequest_of_opens redirecting "127.0.0.1".toList false (.new [] false)
    chatHandshake_opens with ⟨reply, dispatched⟩
  exact not_uninvoked_of_upgrade (keepsOut.uninvoked (.inl ⟨rfl, rfl⟩) _ dispatched)

end Handshake

end RustAsgi
