import RustAsgi.Fallible

/-!
# Building a TLS configuration

`tls/config.rs` and `tls/resolver.rs`. The crates that parse PEM, check a key
against a chain and build the configuration are the parameter `Pki`. A file is
what a single open-and-read finds at its path, so that two reads of one load may
find files that do not belong together.
-/

namespace RustAsgi.Tls

open Fallible

abbrev Bytes := List UInt8

/-- A path, its file name taken apart at the last dot. -/
structure Path where
  directory : String
  stem : String
  extension : Option String
  deriving DecidableEq, Repr

namespace Path

def display (path : Path) : String :=
  path.directory ++ "/" ++ path.stem ++
    match path.extension with
    | some extension => "." ++ extension
    | none => ""

/-- `Path::with_extension("inner.outer")`: what follows the last dot is the new extension. -/
def withExtension (path : Path) (inner outer : String) : Path :=
  { path with stem := path.stem ++ "." ++ inner, extension := some outer }

end Path

/-- What opening and reading a file finds. -/
inductive FileRead where
  | missing
  /-- `File::open` fails, but not with `NotFound`. -/
  | unopenable (source : String)
  /-- The file is open, and reading it fails. -/
  | unreadable (reason : String)
  | contents (bytes : Bytes)
  deriving DecidableEq, Repr

inductive TlsError where
  | certNotFound (path : Path)
  | keyNotFound (path : Path)
  | io (path : Path) (source : String)
  | certParse (path : Path) (reason : String)
  | keyParse (path : Path) (reason : String)
  | noCerts (path : Path)
  | noKey (path : Path)
  | keyMismatch (reason : String)
  | invalidChain (reason : String)
  | rustls (reason : String)
  deriving DecidableEq, Repr

def TlsError.display : TlsError → String
  | .certNotFound path => "certificate file not found: " ++ path.display
  | .keyNotFound path => "private key file not found: " ++ path.display
  | .io path source => "failed to read " ++ path.display ++ ": " ++ source
  | .certParse path reason => "failed to parse certificate " ++ path.display ++ ": " ++ reason
  | .keyParse path reason => "failed to parse private key " ++ path.display ++ ": " ++ reason
  | .noCerts path => "no certificates found in " ++ path.display
  | .noKey path => "no private key found in " ++ path.display
  | .keyMismatch reason => "private key does not match certificate: " ++ reason
  | .invalidChain reason => "invalid certificate chain: " ++ reason
  | .rustls reason => "rustls error: " ++ reason

/-- A chain of DER certificates with its key. -/
structure CertifiedKey where
  certs : List Bytes
  key : Bytes
  deriving DecidableEq, Repr

/-- The crates `rustls`, `rustls_pemfile` and `x509_parser`. -/
structure Pki where
  /-- `rustls_pemfile::certs`, collected. -/
  certs : Bytes → Except String (List Bytes)
  /-- `rustls_pemfile::private_key`. -/
  privateKey : Bytes → Except String (Option Bytes)
  /-- `CertifiedKey::from_der`. -/
  fromDer : CertifiedKey → Except String Unit
  /-- `CertifiedKey::keys_match`. -/
  keysMatch : CertifiedKey → Except String Unit
  /-- `ConfigBuilder::with_single_cert`. -/
  withSingleCert : CertifiedKey → Except String Unit
  /-- `X509Certificate::from_der` succeeds. -/
  parsesX509 : Bytes → Bool
  /-- `ServerName::try_from` succeeds. -/
  serverName : String → Bool

/-- `str::to_ascii_lowercase`. -/
def toAsciiLowercase (name : String) : List Char :=
  name.toList.map Char.toLower

/-- The map of `SniResolver` lists the latest insertion first. -/
structure SniResolver where
  byName : List (List Char × CertifiedKey)
  default : Option CertifiedKey
  deriving DecidableEq, Repr

namespace SniResolver

def new : SniResolver :=
  { byName := [], default := none }

def add (pki : Pki) (resolver : SniResolver) (name : String) (ck : CertifiedKey) :
    Except TlsError SniResolver :=
  if pki.serverName name then
    .ok { resolver with byName := (toAsciiLowercase name, ck) :: resolver.byName }
  else .error (.rustls "unexpected error: Bad DNS name")

def setDefault (resolver : SniResolver) (ck : CertifiedKey) : SniResolver :=
  { resolver with default := some ck }

/-- `ResolvesServerCert::resolve` for a client hello with or without a server name. -/
def resolve (resolver : SniResolver) (serverName : Option String) : Option CertifiedKey :=
  match serverName.bind fun name => resolver.byName.lookup (toAsciiLowercase name) with
  | some ck => some ck
  | none => resolver.default

end SniResolver

inductive CertResolver where
  /-- `with_single_cert`: the same key for every client. -/
  | single (ck : CertifiedKey)
  | sni (resolver : SniResolver)
  deriving DecidableEq, Repr

def CertResolver.resolve (resolver : CertResolver) (serverName : Option String) :
    Option CertifiedKey :=
  match resolver with
  | .single ck => some ck
  | .sni resolver => resolver.resolve serverName

structure ServerConfig where
  certResolver : CertResolver
  alpnProtocols : List String
  deriving DecidableEq, Repr

section Load

variable (pki : Pki)

def loadCertChain (path : Path) (file : FileRead) : Except TlsError (List Bytes) :=
  match file with
  | .missing => .error (.certNotFound path)
  | .unopenable source => .error (.io path source)
  | .unreadable reason => .error (.certParse path reason)
  | .contents bytes =>
      match pki.certs bytes with
      | .error reason => .error (.certParse path reason)
      | .ok [] => .error (.noCerts path)
      | .ok certs =>
          if certs.any List.isEmpty then .error (.invalidChain ("empty cert in " ++ path.display))
          else .ok certs

def loadPrivateKey (path : Path) (file : FileRead) : Except TlsError Bytes :=
  match file with
  | .missing => .error (.keyNotFound path)
  | .unopenable source => .error (.io path source)
  | .unreadable reason => .error (.keyParse path reason)
  | .contents bytes =>
      match pki.privateKey bytes with
      | .error reason => .error (.keyParse path reason)
      | .ok none => .error (.noKey path)
      | .ok (some key) => .ok key

/-- The look at the subject that follows in the source cannot fail. -/
def validatePair (certs : List Bytes) (key : Bytes) : Except TlsError Unit :=
  match pki.fromDer { certs, key } with
  | .error reason => .error (.keyMismatch reason)
  | .ok () =>
      match pki.keysMatch { certs, key } with
      | .error reason => .error (.keyMismatch reason)
      | .ok () => .ok ()

/-- `with_no_client_auth().with_single_cert(certs, key)` with the ALPN protocols of the server. -/
def singleConfig (certs : List Bytes) (key : Bytes) : Except TlsError ServerConfig :=
  match pki.withSingleCert { certs, key } with
  | .error reason => .error (.rustls reason)
  | .ok () =>
      .ok { certResolver := .single { certs, key }, alpnProtocols := ["http/1.1"] }

/-- `build_single_config`, given what its two reads find. -/
def buildSingleConfig (certPath keyPath : Path) (certFile keyFile : FileRead) :
    Except TlsError ServerConfig := do
  let certs ← loadCertChain pki certPath certFile
  let key ← loadPrivateKey pki keyPath keyFile
  validatePair pki certs key
  singleConfig pki certs key

/-- An entry of `--tls-sni`, with what the two reads find. -/
structure SniEntry where
  domain : String
  certPath : Path
  keyPath : Path
  certFile : FileRead
  keyFile : FileRead
  deriving DecidableEq, Repr

def SniEntry.certifiedKey (entry : SniEntry) : Except TlsError CertifiedKey := do
  let certs ← loadCertChain pki entry.certPath entry.certFile
  let key ← loadPrivateKey pki entry.keyPath entry.keyFile
  match pki.fromDer { certs, key } with
  | .error reason => .error (.keyMismatch reason)
  | .ok () => .ok { certs, key }

def addEntries (resolver : SniResolver) : List SniEntry → Except TlsError SniResolver
  | [] => .ok resolver
  | entry :: rest => do
      let ck ← entry.certifiedKey pki
      let resolver ← resolver.add pki entry.domain ck
      addEntries resolver rest

/-- `build_sni_config`; the default certificate is an entry without a domain. -/
def buildSniConfig (entries : List SniEntry) (default : Option SniEntry) :
    Except TlsError ServerConfig := do
  let resolver ← addEntries pki .new entries
  match default with
  | some entry =>
      let ck ← entry.certifiedKey pki
      .ok { certResolver := .sni (resolver.setDefault ck), alpnProtocols := ["http/1.1"] }
  | none => .ok { certResolver := .sni resolver, alpnProtocols := ["http/1.1"] }

end Load

section Inversion

variable {pki : Pki} {certPath keyPath : Path} {certFile keyFile : FileRead} {config : ServerConfig}

theorem buildSingleConfig_ok
    (built : buildSingleConfig pki certPath keyPath certFile keyFile = .ok config) :
    ∃ certs key, loadCertChain pki certPath certFile = .ok certs ∧
      loadPrivateKey pki keyPath keyFile = .ok key ∧ validatePair pki certs key = .ok () ∧
      singleConfig pki certs key = .ok config := by
  rcases bind_eq_ok.mp built with ⟨certs, chain, built⟩
  rcases bind_eq_ok.mp built with ⟨key, loaded, built⟩
  rcases bind_eq_ok.mp built with ⟨_, valid, built⟩
  exact ⟨certs, key, chain, loaded, valid, built⟩

theorem singleConfig_ok {certs : List Bytes} {key : Bytes}
    (built : singleConfig pki certs key = .ok config) :
    config = { certResolver := .single { certs, key }, alpnProtocols := ["http/1.1"] } := by
  simp only [singleConfig] at built
  split at built
  · cases built
  · exact (Except.ok.inj built).symm

end Inversion

/-- A key fits the chain that consists of a certificate with the same bytes. -/
def twins : Pki where
  certs := fun bytes => .ok [bytes]
  privateKey := fun bytes => .ok (some bytes)
  fromDer := fun _ => .ok ()
  keysMatch := fun ck =>
    if ck.certs = [ck.key] then .ok () else .error "InconsistentKeys(KeyMismatch)"
  withSingleCert := fun _ => .ok ()
  parsesX509 := fun _ => true
  serverName := fun _ => true

end RustAsgi.Tls
