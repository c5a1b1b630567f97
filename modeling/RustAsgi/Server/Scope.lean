import RustAsgi.Http.PercentDecode
import RustAsgi.Lifespan.State
import RustAsgi.Net.Address
import RustAsgi.Server.Dispatch

/-!
# The scopes of a connection

From the accept loop to the dictionary that the application gets: `handle_http` and
`build_http_scope` on the one side, `handle_websocket_upgrade` and `setup_ws_call` on
the other. Both take the addresses from the arguments of `spawn_connection`.
-/

namespace RustAsgi

open Net Python

/-- The arguments of `spawn_connection` that describe the connection. -/
structure ConnectionArgs where
  clientHost : Text
  clientPort : UInt16
  serverHost : Text
  serverPort : UInt16
  isTls : Bool
  deriving DecidableEq, Repr

/-- The accept task of `BoundListener::Tcp`. -/
def acceptTcp (localAddr client : SocketAddr) (isTls : Bool) : ConnectionArgs :=
  { clientHost := client.text, clientPort := client.port
    serverHost := localAddr.ip.text, serverPort := localAddr.port, isTls }

inductive HttpVersion where
  | http09
  | http10
  | http11
  | http2
  | http3
  deriving DecidableEq, Repr

/-- What hyper hands to the service. -/
structure Received where
  parts : Parts
  version : HttpVersion
  /-- `uri.scheme_str()`. -/
  scheme : Option Text

def headerBytes (headers : HeaderMap) : List Header :=
  headers.map fun header => (Utf8.encode header.1.toList, header.2.bytes)

structure RequestData where
  method : String
  httpVersion : String
  scheme : Text
  path : Text
  rawPath : Bytes
  queryString : Bytes
  rootPath : Text
  headers : List Header
  hasBody : Bool
  clientHost : Text
  clientPort : UInt16
  serverHost : Text
  serverPort : UInt16

/-- `handle_http`; `none` is a panic of `percent_decode`. -/
def requestData (rootPath : Text) (args : ConnectionArgs) (req : Received) : Option RequestData :=
  (percentDecode req.parts.uri.path).map fun path =>
    { method := req.parts.method
      httpVersion :=
        match req.version with
        | .http10 => "1.0"
        | .http11 => "1.1"
        | .http2 => "2"
        | .http3 => "3"
        | .http09 => "1.1"
      scheme := if args.isTls then "https".toList else req.scheme.getD "http".toList
      path
      rawPath := Utf8.encode req.parts.uri.path
      queryString := Utf8.encode (req.parts.uri.query.getD [])
      rootPath
      headers := headerBytes req.parts.headers
      hasBody := hasBody req.parts.headers
      clientHost := args.clientHost
      clientPort := args.clientPort
      serverHost := args.serverHost
      serverPort := args.serverPort }

structure WsHandshake where
  path : Text
  rawPath : Bytes
  queryString : Bytes
  headers : List Header
  scheme : Text
  httpVersion : String

/-- `handle_websocket_upgrade`. -/
def wsHandshake (args : ConnectionArgs) (req : Received) : WsHandshake :=
  { path := req.parts.uri.path
    rawPath := Utf8.encode req.parts.uri.path
    queryString := Utf8.encode (req.parts.uri.query.getD [])
    headers := headerBytes req.parts.headers
    scheme := if args.isTls then "wss".toList else "ws".toList
    httpVersion :=
      match req.version with
      | .http10 => "1.0"
      | .http11 => "1.1"
      | .http2 => "2"
      | .http3 | .http09 => "1.1" }

/-- The entries of a scope; those that only one of the two kinds has are optional. -/
structure ConnectionScope where
  /-- `type` and `state`. -/
  base : Scope
  asgi : List (String × String)
  httpVersion : String
  method : Option String
  scheme : Text
  path : Text
  rawPath : Bytes
  queryString : Bytes
  rootPath : Text
  headers : List Header
  client : Text × UInt16
  server : Text × UInt16
  extensions : List String
  subprotocols : Option (List Text)

def asgiVersions : List (String × String) :=
  [("version", "3.0"), ("spec_version", "2.5")]

/-- `build_http_scope`. -/
def httpScope (lifespanState : Option ℕ) (req : RequestData) (heap : Heap) :
    ConnectionScope × Heap :=
  let (base, after) := buildHttpScope lifespanState heap
  ({ base
     asgi := asgiVersions
     httpVersion := req.httpVersion
     method := some req.method
     scheme := req.scheme
     path := req.path
     rawPath := req.rawPath
     queryString := req.queryString
     rootPath := req.rootPath
     headers := req.headers
     client := (req.clientHost, req.clientPort)
     server := (req.serverHost, req.serverPort)
     extensions := []
     subprotocols := none }, after)

/-- The scope of `setup_ws_call`; `none` is a panic of `percent_decode`. -/
def wsScope (lifespanState : Option ℕ) (args : ConnectionArgs) (hs : WsHandshake) (heap : Heap) :
    Option (ConnectionScope × Heap) :=
  let (base, after) := setupWsCall lifespanState heap
  (percentDecode hs.path).map fun path =>
    ({ base
       asgi := asgiVersions
       httpVersion := hs.httpVersion
       method := none
       scheme := hs.scheme
       path
       rawPath := hs.rawPath
       queryString := hs.queryString
       rootPath := []
       headers := hs.headers
       client := (args.clientHost, args.clientPort)
       server := (args.serverHost, args.serverPort)
       extensions := []
       subprotocols := some [] }, after)

/-- A worker's configuration, as far as the scopes show it. -/
structure ScopeConfig where
  rootPath : Text
  lifespanState : Option ℕ

/-- The scope of a request that takes the HTTP path. -/
def scopeOfHttp (config : ScopeConfig) (args : ConnectionArgs) (req : Received) (heap : Heap) :
    Option (ConnectionScope × Heap) :=
  (requestData config.rootPath args req).map fun data => httpScope config.lifespanState data heap

/-- The scope of a request that takes the WebSocket path. -/
def scopeOfWs (config : ScopeConfig) (args : ConnectionArgs) (req : Received) (heap : Heap) :
    Option (ConnectionScope × Heap) :=
  wsScope config.lifespanState args (wsHandshake args req) heap

/-- What both scopes say of the request, whatever the addresses and the mount point. -/
structure SameRequest (http ws : ConnectionScope × Heap) : Prop where
  path : http.1.path = ws.1.path
  rawPath : http.1.rawPath = ws.1.rawPath
  queryString : http.1.queryString = ws.1.queryString
  headers : http.1.headers = ws.1.headers
  client : http.1.client = ws.1.client
  server : http.1.server = ws.1.server
  state : http.2.read http.1.base.state = ws.2.read ws.1.base.state

/-- The scope shows the configured mount point and the two ends of the connection. -/
structure Describes (rootPath : Text) (localAddr peer : SocketAddr) (scope : ConnectionScope) :
    Prop where
  rootPath : scope.rootPath = rootPath
  client : scope.client = (peer.ip.text, peer.port)
  server : scope.server = (localAddr.ip.text, localAddr.port)

/-- Both scopes are built, they agree, and they describe the connection. -/
def DescribeAlike (config : ScopeConfig) (localAddr peer : SocketAddr) (isTls : Bool)
    (req : Received) (heap : Heap) : Prop :=
  ∃ http ws, scopeOfHttp config (acceptTcp localAddr peer isTls) req heap = some http ∧
    scopeOfWs config (acceptTcp localAddr peer isTls) req heap = some ws ∧
    SameRequest http ws ∧ http.1.rootPath = ws.1.rootPath ∧
    Describes config.rootPath localAddr peer http.1 ∧ Describes config.rootPath localAddr peer ws.1

section Scopes

variable {config : ScopeConfig} {args : ConnectionArgs} {req : Received} {heap : Heap}

/-- Both scopes are always built. They agree on the request and on the addresses they were given,
and on the mount point when that is empty. -/
theorem scopes_agree (config : ScopeConfig) (args : ConnectionArgs) (req : Received)
    (heap : Heap) :
    ∃ http ws, scopeOfHttp config args req heap = some http ∧
      scopeOfWs config args req heap = some ws ∧ SameRequest http ws ∧
      http.1.rootPath = config.rootPath ∧ ws.1.rootPath = [] ∧
      http.1.client = (args.clientHost, args.clientPort) ∧
      http.1.server = (args.serverHost, args.serverPort) := by
  rcases percentDecode_total req.parts.uri.path with ⟨path, decoded⟩
  refine ⟨_, _, by simp only [scopeOfHttp, requestData, decoded, Option.map_some]; rfl,
    by simp only [scopeOfWs, wsScope, wsHandshake, decoded, Option.map_some]; rfl, ?_,
    rfl, rfl, rfl, rfl⟩
  refine ⟨rfl, rfl, rfl, rfl, rfl, rfl, ?_⟩
  cases config.lifespanState <;> rfl

theorem headers_of_scope {scope : ConnectionScope × Heap}
    (built : scopeOfHttp config args req heap = some scope ∨
      scopeOfWs config args req heap = some scope) :
    scope.1.headers = headerBytes req.parts.headers := by
  rcases built with built | built
  · simp only [scopeOfHttp, requestData, Option.map_map, Option.map_eq_some_iff] at built
    rcases built with ⟨path, _, rfl⟩
    rfl
  · simp only [scopeOfWs, wsScope, Option.map_eq_some_iff] at built
    rcases built with ⟨path, _, rfl⟩
    rfl

/-- The client of a TCP connection is never described by its IP address. -/
theorem client_of_scopeOfHttp {localAddr peer : SocketAddr} {isTls : Bool}
    {http : ConnectionScope × Heap}
    (built : scopeOfHttp config (acceptTcp localAddr peer isTls) req heap = some http) :
    http.1.client = (peer.text, peer.port) := by
  simp only [scopeOfHttp, requestData, Option.map_map, Option.map_eq_some_iff] at built
  rcases built with ⟨path, _, rfl⟩
  rfl

/-- No request over TCP is described as it should be: the host of the client has the port in it. -/
theorem scopes_never_describe (config : ScopeConfig) (localAddr peer : SocketAddr) (isTls : Bool)
    (req : Received) (heap : Heap) : ¬ DescribeAlike config localAddr peer isTls req heap := by
  rintro ⟨http, _, built, _, _, _, describes, _⟩
  have given := client_of_scopeOfHttp built
  rw [describes.client, Prod.mk.injEq] at given
  exact peer.text_ne_ip given.1.symm

/-- `GET /` over a plain connection. -/
def probe : Received :=
  { parts :=
      { method := "GET"
        uri :=
          { path := ['/'], query := none
            legalPath := List.forall_mem_singleton.mpr rfl
            legalQuery := Uri.legalQuery_none }
        headers := [] }
    version := .http11
    scheme := none }

def mounted : ScopeConfig :=
  { rootPath := "/api".toList, lifespanState := none }

def localhost : Ipv4Addr :=
  ⟨127, 0, 0, 1⟩

/-- A connection from port 5000 to port 8000. -/
def loopback : ConnectionArgs :=
  acceptTcp (.v4 localhost 8000) (.v4 localhost 5000) false

def noObjects : Heap :=
  { objects := [] }

/-- The client `127.0.0.1` gets its port twice, and over a WebSocket the mount point is lost. -/
theorem client_with_port :
    (∃ http ws,
      scopeOfHttp mounted loopback probe noObjects = some http ∧
      scopeOfWs mounted loopback probe noObjects = some ws ∧
      http.1.client = ("127.0.0.1:5000".toList, 5000) ∧
      http.1.server = ("127.0.0.1".toList, 8000) ∧
      http.1.rootPath = "/api".toList ∧ ws.1.rootPath = []) ∧
    ¬ DescribeAlike mounted (.v4 localhost 8000) (.v4 localhost 5000) false probe noObjects := by
  refine ⟨?_, ?_⟩
  · rcases scopes_agree mounted loopback probe noObjects with
      ⟨http, ws, builtHttp, builtWs, _, mount, lost, client, server⟩
    exact ⟨http, ws, builtHttp, builtWs, client, server, mount, lost⟩
  · rintro ⟨http, _, built, _, _, _, describes, _⟩
    have given := client_of_scopeOfHttp built
    rw [describes.client] at given
    cases given

end Scopes

end RustAsgi
