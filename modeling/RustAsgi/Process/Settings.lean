import RustAsgi.Acme.Renewal
import RustAsgi.Encoding.Delimited

/-!
# Where the settings come from

The command line of the standalone server is read in Python, with defaults from the
environment. `run` and `run_worker` look at the same variables again, for what they have
not been given. Both readers take a list apart at its commas.
-/

namespace RustAsgi.Settings

open Acme Delimited Fallible

/-- `char::is_whitespace`. -/
def isWhitespace (c : Char) : Bool :=
  (9 ≤ c.toNat && c.toNat ≤ 13) || (0x2000 ≤ c.toNat && c.toNat ≤ 0x200A) ||
    [0x20, 0x85, 0xA0, 0x1680, 0x2028, 0x2029, 0x202F, 0x205F, 0x3000].contains c.toNat

/-- `str.isspace`, which also takes the four separators among the control characters. -/
def isSpace (c : Char) : Bool :=
  isWhitespace c || (0x1C ≤ c.toNat && c.toNat ≤ 0x1F)

/-- The values of the variables. -/
abbrev Environ := String → Option Text

inductive SettingsError where
  /-- `ValueError`: the variable does not hold a number. -/
  | invalidLiteral (name : String)
  /-- `OverflowError`: the number does not fit the parameter. -/
  | overflow (parameter : String)
  deriving DecidableEq, Repr

section Python

/-- `env`. -/
def env (environ : Environ) (name : String) (default : String) : Text :=
  (environ ("RUSTWASGI_" ++ name)).getD default.toList

/-- `text or None`. -/
def orNone (text : Text) : Option Text :=
  if text = [] then none else some text

/-- What `int` leaves to the interpreter that runs it. -/
structure Integers where
  /-- `unicodedata.decimal`, beyond ASCII. -/
  decimal : Char → Option ℕ
  /-- `sys.get_int_max_str_digits`, where `0` stands for no limit. -/
  maxStrDigits : ℕ

/-- The value of a decimal digit. -/
def Integers.digit (integers : Integers) (c : Char) : Option ℕ :=
  if c.toNat < 128 then (if c.isDigit then some (c.toNat - 48) else none)
  else integers.decimal c

/-- The limit is not looked at before `sys.int_info.str_digits_check_threshold`. -/
def Integers.Allows (integers : Integers) (count : ℕ) : Prop :=
  count ≤ 640 ∨ integers.maxStrDigits = 0 ∨ count ≤ integers.maxStrDigits

instance (integers : Integers) (count : ℕ) : Decidable (integers.Allows count) :=
  inferInstanceAs (Decidable (_ ∨ _ ∨ _))

/-- Digits, where single underscores may stand between them. -/
def underscored (integers : Integers) (text : Text) : Option ℕ :=
  let groups := text.splitOn '_'
  if (∀ group ∈ groups, group ≠ []) ∧ integers.Allows groups.flatten.length then
    (groups.flatten.mapM integers.digit).map fun digits =>
      digits.foldl (fun number digit => 10 * number + digit) 0
  else none

/-- `int`. What is stripped is blank for C among ASCII characters, and for Unicode beyond: unlike
with `str.strip`, the four separators stay. -/
def pythonInt (integers : Integers) (text : Text) : Option ℤ :=
  match strip isWhitespace text with
  | '-' :: digits => (underscored integers digits).map fun number => -(number : ℤ)
  | '+' :: digits => (underscored integers digits).map fun number => (number : ℤ)
  | digits => (underscored integers digits).map fun number => (number : ℤ)

/-- The decimal digits of Unicode 14 beyond ASCII, each row from its zero on. -/
def decimalZeros : List ℕ :=
  [0x660, 0x6F0, 0x7C0, 0x966, 0x9E6, 0xA66, 0xAE6, 0xB66, 0xBE6, 0xC66, 0xCE6, 0xD66, 0xDE6,
    0xE50, 0xED0, 0xF20, 0x1040, 0x1090, 0x17E0, 0x1810, 0x1946, 0x19D0, 0x1A80, 0x1A90, 0x1B50,
    0x1BB0, 0x1C40, 0x1C50, 0xA620, 0xA8D0, 0xA900, 0xA9D0, 0xA9F0, 0xAA50, 0xABF0, 0xFF10,
    0x104A0, 0x10D30, 0x11066, 0x110F0, 0x11136, 0x111D0, 0x112F0, 0x11450, 0x114D0, 0x11650,
    0x116C0, 0x11730, 0x118E0, 0x11950, 0x11C50, 0x11D50, 0x11DA0, 0x16A60, 0x16AC0, 0x16B50,
    0x1D7CE, 0x1D7D8, 0x1D7E2, 0x1D7EC, 0x1D7F6, 0x1E140, 0x1E2F0, 0x1E950, 0x1FBF0]

/-- CPython 3.11, as it starts. -/
def cpython : Integers where
  decimal c := (decimalZeros.find? fun first => first ≤ c.toNat ∧ c.toNat < first + 10).map
    fun first => c.toNat - first
  maxStrDigits := 4300

example : pythonInt cpython " 8_000\n".toList = some 8000 := by decide

example : pythonInt cpython "\u2003٤٢".toList = some 42 := by decide

example : pythonInt cpython "\u001C42".toList = none := by decide

/-- A numeric default, which is read whether or not the command line gives the option. -/
def intDefault (integers : Integers) (environ : Environ) (name default : String) :
    Except SettingsError ℤ :=
  match pythonInt integers (env environ name default) with
  | some number => .ok number
  | none => .error (.invalidLiteral ("RUSTWASGI_" ++ name))

/-- `[e.strip() for e in text.split(",") if e.strip()] if text else []`. -/
def pythonList (text : Text) : List Text :=
  if text = [] then [] else fields ',' isSpace text

end Python

/-- The options that both readers look for. -/
@[ext]
structure TlsOptions where
  tlsCert : Option Text
  tlsKey : Option Text
  redirectHttpToHttps : Bool
  acmeDirectory : Option Text
  acmeEmail : Option Text
  acmeDomains : List Text
  acmeDir : Option Text
  tlsSni : List Text
  deriving DecidableEq, Repr

/-- The defaults of `run` and `run_worker`. -/
def TlsOptions.none : TlsOptions :=
  { tlsCert := .none, tlsKey := .none, redirectHttpToHttps := false, acmeDirectory := .none,
    acmeEmail := .none, acmeDomains := [], acmeDir := .none, tlsSni := [] }

/-- A command line that `argparse` takes. An option that may be repeated is empty without one. -/
structure CommandLine where
  app : Text
  host : Option Text
  port : Option ℤ
  workers : Option ℤ
  logLevel : Option Text
  rootPath : Option Text
  lifespan : Option Text
  accessLog : Option Bool
  keepAlive : Option ℤ
  tlsCert : Option Text
  tlsKey : Option Text
  tlsSni : List Text
  redirectHttpToHttps : Option Bool
  acmeDirectory : Option Text
  acmeEmail : Option Text
  acmeDomains : List Text
  acmeDir : Option Text

/-- The arguments of `rustwasgi.run`. -/
structure RunCall where
  app : Text
  host : Text
  port : ℤ
  workers : ℤ
  logLevel : Text
  rootPath : Text
  lifespan : Text
  accessLog : Bool
  keepAlive : ℤ
  options : TlsOptions

/-- The options that `main` passes on. -/
def passed (environ : Environ) (line : CommandLine) : TlsOptions where
  tlsCert := line.tlsCert <|> orNone (env environ "TLS_CERT" "")
  tlsKey := line.tlsKey <|> orNone (env environ "TLS_KEY" "")
  redirectHttpToHttps :=
    line.redirectHttpToHttps.getD (env environ "REDIRECT_HTTP_TO_HTTPS" "0" == ['1'])
  acmeDirectory := line.acmeDirectory <|> orNone (env environ "ACME_DIRECTORY" "")
  acmeEmail := line.acmeEmail <|> orNone (env environ "ACME_EMAIL" "")
  acmeDomains :=
    if line.acmeDomains = [] then pythonList (env environ "ACME_DOMAINS" "") else line.acmeDomains
  acmeDir := line.acmeDir <|> orNone (env environ "ACME_DIR" "")
  tlsSni := if line.tlsSni = [] then pythonList (env environ "TLS_SNI" "") else line.tlsSni

/-- `build_parser` and `main`, up to the call. -/
def main (integers : Integers) (environ : Environ) (line : CommandLine) :
    Except SettingsError RunCall := do
  let port ← intDefault integers environ "PORT" "8000"
  let workers ← intDefault integers environ "WORKERS" "1"
  let keepAlive ← intDefault integers environ "KEEP_ALIVE" "0"
  .ok { app := line.app
        host := line.host.getD (env environ "HOST" "127.0.0.1")
        port := line.port.getD port
        workers := line.workers.getD workers
        logLevel := line.logLevel.getD (env environ "LOG_LEVEL" "info")
        rootPath := line.rootPath.getD (env environ "ROOT_PATH" "")
        lifespan := line.lifespan.getD (env environ "LIFESPAN" "auto")
        accessLog := line.accessLog.getD (env environ "ACCESS_LOG" "0" == ['1'])
        keepAlive := line.keepAlive.getD keepAlive
        options := passed environ line }

section Rust

/-- A list in the environment, as `run` and `run_worker` read it. -/
def rustList (text : Text) : List Text :=
  fields ',' isWhitespace text

/-- What `run` and `run_worker` make of the options that they are given. -/
def resolve (environ : Environ) (given : TlsOptions) : TlsOptions where
  acmeDomains :=
    if given.acmeDomains = [] then ((environ "RUSTWASGI_ACME_DOMAINS").map rustList).getD []
    else given.acmeDomains
  tlsCert := given.tlsCert <|> (environ "RUSTWASGI_TLS_CERT").filter (· ≠ [])
  tlsKey := given.tlsKey <|> (environ "RUSTWASGI_TLS_KEY").filter (· ≠ [])
  tlsSni :=
    if given.tlsSni = [] then ((environ "RUSTWASGI_TLS_SNI").map rustList).getD []
    else given.tlsSni
  redirectHttpToHttps :=
    given.redirectHttpToHttps || environ "RUSTWASGI_REDIRECT_HTTP_TO_HTTPS" == some ['1']
  acmeDirectory := given.acmeDirectory <|> environ "RUSTWASGI_ACME_DIRECTORY"
  acmeEmail := given.acmeEmail <|> environ "RUSTWASGI_ACME_EMAIL"
  acmeDir := given.acmeDir <|> environ "RUSTWASGI_ACME_DIR"

/-- A Python integer as an unsigned one. -/
def extract (parameter : String) (size : ℕ) (number : ℤ) : Except SettingsError ℕ :=
  if 0 ≤ number ∧ number < size then .ok number.toNat else .error (.overflow parameter)

end Rust

/-- `cli::ServerConfig`, with the keep-alive that goes along. -/
structure ServerConfig where
  appSpec : Text
  host : Text
  port : ℕ
  workers : ℕ
  logLevel : Text
  rootPath : Text
  lifespan : Text
  accessLog : Bool
  keepAlive : ℕ
  options : TlsOptions
  deriving DecidableEq, Repr

/-- `run`, up to its configuration. -/
def run (environ : Environ) (call : RunCall) : Except SettingsError ServerConfig := do
  let port ← extract "port" UInt16.size call.port
  let workers ← extract "workers" UInt64.size call.workers
  let keepAlive ← extract "keep_alive" UInt64.size call.keepAlive
  .ok { appSpec := call.app, host := call.host, port, workers, logLevel := call.logLevel,
        rootPath := call.rootPath, lifespan := call.lifespan, accessLog := call.accessLog,
        keepAlive, options := resolve environ call.options }

/-- The settings of a standalone server. -/
def standalone (integers : Integers) (environ : Environ) (line : CommandLine) :
    Except SettingsError ServerConfig := do
  let call ← main integers environ line
  run environ call

/-- What Gunicorn's worker class finds: its own `timeout` and `max_requests`, and the `cfg`. -/
structure GunicornWorker where
  appUri : Text
  timeout : ℕ
  maxRequests : ℕ
  gracefulTimeout : ℕ
  keepalive : ℕ
  accesslog : Option Text

/-- What `serve_process_on` is given besides the configuration. -/
structure WorkerSettings where
  config : ServerConfig
  maxRequests : ℕ
  gracefulTimeout : ℕ
  heartbeatInterval : ℕ
  /-- There is an `access` hook. -/
  access : Bool
  deriving DecidableEq, Repr

/-- `number or default`. -/
def orDefault (number default : ℕ) : ℕ :=
  if number = 0 then default else number

/-- `run` of the worker class, and `run_worker` up to its configuration. -/
def worker (environ : Environ) (gunicorn : GunicornWorker) : WorkerSettings :=
  { config := {
      appSpec := gunicorn.appUri, host := [], port := 0, workers := 1, logLevel := "info".toList,
      rootPath := env environ "ROOT_PATH" "", lifespan := env environ "LIFESPAN" "auto",
      accessLog := false, keepAlive := gunicorn.keepalive, options := resolve environ .none }
    maxRequests := gunicorn.maxRequests
    gracefulTimeout := orDefault gunicorn.gracefulTimeout 30
    heartbeatInterval := max 1 (min (orDefault (gunicorn.timeout / 2) 1) 30)
    access := gunicorn.accesslog.any fun log => log ≠ [] ∧ log ≠ "none".toList }

/-- `acme::renewal::AcmeConfig`, with what an order needs besides. -/
structure AcmeStart where
  config : AcmeConfig
  email : Text
  domains : List Text

/-- `AcmeConfig::from_server_config`. -/
def TlsOptions.acmeConfig (options : TlsOptions) : Option AcmeStart :=
  if options.acmeDomains = [] then .none
  else
    options.acmeEmail.map fun email =>
      { config := {
          directoryUrl := options.acmeDirectory.getD
            "https://acme-v02.api.letsencrypt.org/directory".toList
          storageDir := String.ofList (options.acmeDir.getD "./acme".toList)
          renewThresholdDays := 30 }
        email, domains := options.acmeDomains }

/-- The precedence that the options are meant to have: the command line, then the environment,
where an empty variable is as good as none. -/
def documented (environ : Environ) (line : CommandLine) : TlsOptions :=
  let stated (name : String) := (environ name).filter (· ≠ [])
  let listed (name : String) := ((environ name).map pythonList).getD []
  { tlsCert := line.tlsCert <|> stated "RUSTWASGI_TLS_CERT"
    tlsKey := line.tlsKey <|> stated "RUSTWASGI_TLS_KEY"
    redirectHttpToHttps :=
      line.redirectHttpToHttps.getD (environ "RUSTWASGI_REDIRECT_HTTP_TO_HTTPS" == some ['1'])
    acmeDirectory := line.acmeDirectory <|> stated "RUSTWASGI_ACME_DIRECTORY"
    acmeEmail := line.acmeEmail <|> stated "RUSTWASGI_ACME_EMAIL"
    acmeDomains :=
      if line.acmeDomains = [] then listed "RUSTWASGI_ACME_DOMAINS" else line.acmeDomains
    acmeDir := line.acmeDir <|> stated "RUSTWASGI_ACME_DIR"
    tlsSni := if line.tlsSni = [] then listed "RUSTWASGI_TLS_SNI" else line.tlsSni }

/-- Python does not take for blank what Rust takes for an entry. -/
def Plain (text : Text) : Prop :=
  (∀ c ∈ text, c ≠ ',' → isSpace c = true) → ∀ c ∈ text, c ≠ ',' → isWhitespace c = true

/-- Where the precedence is kept. The second reader takes back a `--no-redirect-http-to-https`, and
takes an empty ACME variable for a value. -/
structure Honoured (environ : Environ) (line : CommandLine) : Prop where
  redirect : line.redirectHttpToHttps = some false →
    environ "RUSTWASGI_REDIRECT_HTTP_TO_HTTPS" ≠ some ['1']
  directory : line.acmeDirectory = none → environ "RUSTWASGI_ACME_DIRECTORY" ≠ some []
  email : line.acmeEmail = none → environ "RUSTWASGI_ACME_EMAIL" ≠ some []
  domains : line.acmeDomains = [] → ∀ text ∈ environ "RUSTWASGI_ACME_DOMAINS", Plain text
  dir : line.acmeDir = none → environ "RUSTWASGI_ACME_DIR" ≠ some []
  sni : line.tlsSni = [] → ∀ text ∈ environ "RUSTWASGI_TLS_SNI", Plain text

/-- None of the options is given. -/
structure CommandLine.Silent (line : CommandLine) : Prop where
  tlsCert : line.tlsCert = none
  tlsKey : line.tlsKey = none
  redirectHttpToHttps : line.redirectHttpToHttps = none
  acmeDirectory : line.acmeDirectory = none
  acmeEmail : line.acmeEmail = none
  acmeDomains : line.acmeDomains = []
  acmeDir : line.acmeDir = none
  tlsSni : line.tlsSni = []

/-- What is not empty for Python is the same list for Rust. -/
def Alike (text : Text) : Prop :=
  pythonList text ≠ [] → pythonList text = rustList text

section Readers

variable {given value : Option Text} {text : Text} {row : List Text}

theorem pythonList_eq (text : Text) : pythonList text = fields ',' isSpace text := by
  rw [pythonList]
  split
  next empty => simp [empty, fields, strip]
  next => rfl

theorem isSpace_of_isWhitespace (c : Char) (blank : isWhitespace c = true) : isSpace c = true := by
  rw [isSpace, blank, Bool.true_or]

theorem plain_iff : Plain text ↔ (pythonList text = [] → rustList text = []) := by
  rw [pythonList_eq, rustList, fields_eq_nil, fields_eq_nil]
  rfl

theorem orElse_stated :
    ((given <|> orNone (value.getD [])) <|> value.filter (· ≠ [])) =
      (given <|> value.filter (· ≠ [])) := by
  cases given with
  | some => rfl
  | none =>
      cases value with
      | none => rfl
      | some text => by_cases empty : text = [] <;> simp [orNone, Option.filter, empty]

theorem orElse_stated_iff :
    ((given <|> orNone (value.getD [])) <|> value) = (given <|> value.filter (· ≠ [])) ↔
      (given = none → value ≠ some []) := by
  cases given with
  | some => simp
  | none =>
      cases value with
      | none => simp [orNone]
      | some text => by_cases empty : text = [] <;> simp [orNone, Option.filter, empty]

theorem orElse_kept : ((none <|> orNone (value.getD [])) <|> value) = (none <|> value) := by
  cases value with
  | none => rfl
  | some text => by_cases empty : text = [] <;> simp [orNone, empty]

theorem redirect_iff {given : Option Bool} :
    (given.getD (value.getD ['0'] == ['1']) || value == some ['1']) =
        given.getD (value == some ['1']) ↔
      (given = some false → value ≠ some ['1']) := by
  rcases given with _ | _ | _ <;> rcases value with _ | text <;> simp

theorem redirect_none :
    ((none : Option Bool).getD (value.getD ['0'] == ['1']) || value == some ['1']) =
      (false || value == some ['1']) := by
  cases value <;> simp

theorem listed_iff :
    (if (if row = [] then pythonList (value.getD []) else row) = [] then
        (value.map rustList).getD []
      else if row = [] then pythonList (value.getD []) else row) =
        (if row = [] then (value.map pythonList).getD [] else row) ↔
      (row = [] → ∀ text ∈ value, Plain text) := by
  by_cases given : row = []
  · subst given
    rcases value with _ | text
    · simp [pythonList]
    · by_cases none : pythonList text = []
      · simp [none, plain_iff]
      · simp [none, plain_iff]
  · simp [given]

theorem alike_iff :
    (if (if ([] : List Text) = [] then pythonList (value.getD []) else []) = [] then
        (value.map rustList).getD []
      else if ([] : List Text) = [] then pythonList (value.getD []) else []) =
        (if ([] : List Text) = [] then (value.map rustList).getD [] else []) ↔
      ∀ text ∈ value, Alike text := by
  cases value with
  | none => simp [pythonList]
  | some text => by_cases none : pythonList text = [] <;> simp [none, Alike]

end Readers

section Resolution

variable {integers : Integers} {environ : Environ} {line : CommandLine} {call : RunCall}

theorem intDefault_eq_ok {name default : String} {number : ℤ} :
    intDefault integers environ name default = .ok number ↔
      pythonInt integers (env environ name default) = some number := by
  rw [intDefault]
  cases pythonInt integers (env environ name default) <;> simp

theorem readable_iff {name default : String}
    (preset : (pythonInt integers default.toList).isSome) :
    (pythonInt integers (env environ name default)).isSome ↔
      ∀ text ∈ environ ("RUSTWASGI_" ++ name), (pythonInt integers text).isSome := by
  rw [env]
  cases environ ("RUSTWASGI_" ++ name) with
  | none => simpa using preset
  | some text => simp

/-- The numbers in the environment have to be numbers, also where the command line gives them. -/
theorem main_ok :
    (∃ call, main integers environ line = .ok call) ↔
      ∀ name ∈ ["RUSTWASGI_PORT", "RUSTWASGI_WORKERS", "RUSTWASGI_KEEP_ALIVE"],
        ∀ text ∈ environ name, (pythonInt integers text).isSome := by
  have port : (pythonInt integers (env environ "PORT" "8000")).isSome ↔ _ :=
    readable_iff rfl
  have workers : (pythonInt integers (env environ "WORKERS" "1")).isSome ↔ _ :=
    readable_iff rfl
  have keepAlive : (pythonInt integers (env environ "KEEP_ALIVE" "0")).isSome ↔ _ :=
    readable_iff rfl
  simp only [List.forall_mem_cons, List.not_mem_nil, false_implies, implies_true, and_true]
  refine Iff.trans ?_ (and_congr port (and_congr workers keepAlive))
  simp only [main, bind_succeeds, intDefault_eq_ok, Except.ok.injEq, exists_eq', and_true,
    Option.isSome_iff_exists]
  constructor
  · rintro ⟨port, first, workers, second, keepAlive, third⟩
    exact ⟨⟨port, first⟩, ⟨workers, second⟩, keepAlive, third⟩
  · rintro ⟨⟨port, first⟩, ⟨workers, second⟩, keepAlive, third⟩
    exact ⟨port, first, workers, second, keepAlive, third⟩

theorem options_main (parsed : main integers environ line = .ok call) :
    call.options = passed environ line := by
  simp only [main, bind_eq_ok, Except.ok.injEq] at parsed
  rcases parsed with ⟨_, _, _, _, _, _, rfl⟩
  rfl

/-- The options of a standalone server are those that they are meant to be exactly where the
precedence is kept. -/
theorem options_documented_iff :
    resolve environ (passed environ line) = documented environ line ↔ Honoured environ line := by
  have cert : (resolve environ (passed environ line)).tlsCert =
      (documented environ line).tlsCert := orElse_stated
  have key : (resolve environ (passed environ line)).tlsKey =
      (documented environ line).tlsKey := orElse_stated
  have redirect : (resolve environ (passed environ line)).redirectHttpToHttps =
      (documented environ line).redirectHttpToHttps ↔ _ := redirect_iff
  have directory : (resolve environ (passed environ line)).acmeDirectory =
      (documented environ line).acmeDirectory ↔ _ := orElse_stated_iff
  have email : (resolve environ (passed environ line)).acmeEmail =
      (documented environ line).acmeEmail ↔ _ := orElse_stated_iff
  have domains : (resolve environ (passed environ line)).acmeDomains =
      (documented environ line).acmeDomains ↔ _ := listed_iff
  have dir : (resolve environ (passed environ line)).acmeDir =
      (documented environ line).acmeDir ↔ _ := orElse_stated_iff
  have sni : (resolve environ (passed environ line)).tlsSni =
      (documented environ line).tlsSni ↔ _ := listed_iff
  constructor
  · intro same
    rw [same] at redirect directory email domains dir sni
    exact ⟨redirect.mp rfl, directory.mp rfl, email.mp rfl, domains.mp rfl, dir.mp rfl,
      sni.mp rfl⟩
  · intro honoured
    exact TlsOptions.ext cert key (redirect.mpr honoured.redirect)
      (directory.mpr honoured.directory) (email.mpr honoured.email)
      (domains.mpr honoured.domains) (dir.mpr honoured.dir) (sni.mpr honoured.sni)

theorem options_standalone {config : ServerConfig}
    (started : standalone integers environ line = .ok config) :
    config.options = resolve environ (passed environ line) := by
  simp only [standalone, run, bind_eq_ok, Except.ok.injEq] at started
  rcases started with ⟨call, parsed, _, _, _, _, _, _, rfl⟩
  rw [← options_main parsed]

/-- The options of a worker are those of a command line that gives none of them, but for lists
that the two languages take apart differently. -/
theorem options_worker_iff (silent : line.Silent) :
    resolve environ (passed environ line) = resolve environ .none ↔
      (∀ text ∈ environ "RUSTWASGI_ACME_DOMAINS", Alike text) ∧
        ∀ text ∈ environ "RUSTWASGI_TLS_SNI", Alike text := by
  rcases silent with ⟨noCert, noKey, noRedirect, noDirectory, noEmail, noDomains, noDir, noSni⟩
  have cert : (resolve environ (passed environ line)).tlsCert =
      (resolve environ .none).tlsCert := by
    rw [resolve, passed, noCert]
    exact orElse_stated
  have key : (resolve environ (passed environ line)).tlsKey =
      (resolve environ .none).tlsKey := by
    rw [resolve, passed, noKey]
    exact orElse_stated
  have redirect : (resolve environ (passed environ line)).redirectHttpToHttps =
      (resolve environ .none).redirectHttpToHttps := by
    rw [resolve, passed, noRedirect]
    exact redirect_none
  have directory : (resolve environ (passed environ line)).acmeDirectory =
      (resolve environ .none).acmeDirectory := by
    rw [resolve, passed, noDirectory]
    exact orElse_kept
  have email : (resolve environ (passed environ line)).acmeEmail =
      (resolve environ .none).acmeEmail := by
    rw [resolve, passed, noEmail]
    exact orElse_kept
  have dir : (resolve environ (passed environ line)).acmeDir =
      (resolve environ .none).acmeDir := by
    rw [resolve, passed, noDir]
    exact orElse_kept
  have domains : (resolve environ (passed environ line)).acmeDomains =
      (resolve environ .none).acmeDomains ↔
        ∀ text ∈ environ "RUSTWASGI_ACME_DOMAINS", Alike text := by
    rw [resolve, passed, noDomains]
    exact alike_iff
  have sni : (resolve environ (passed environ line)).tlsSni =
      (resolve environ .none).tlsSni ↔ ∀ text ∈ environ "RUSTWASGI_TLS_SNI", Alike text := by
    rw [resolve, passed, noSni]
    exact alike_iff
  constructor
  · intro same
    rw [same] at domains sni
    exact ⟨domains.mp rfl, sni.mp rfl⟩
  · rintro ⟨first, second⟩
    exact TlsOptions.ext cert key redirect directory email (domains.mpr first) dir (sni.mpr second)

/-- Entries that are joined are read back by both. -/
theorem lists_intercalate {row : List Text} :
    (pythonList ([','].intercalate row) = row ↔ ∀ entry ∈ row, IsField ',' isSpace entry) ∧
      ((∀ entry ∈ row, IsField ',' isSpace entry) → rustList ([','].intercalate row) = row) := by
  rw [pythonList_eq]
  refine ⟨fields_intercalate, fun proper => fields_intercalate.mpr fun entry member => ?_⟩
  exact (proper entry member).of_imp isSpace_of_isWhitespace

/-- A list of entries in the environment reaches both servers. -/
theorem sni_of_environ {row : List Text} (proper : ∀ entry ∈ row, IsField ',' isSpace entry)
    (written : environ "RUSTWASGI_TLS_SNI" = some ([','].intercalate row)) :
    (line.tlsSni = [] → (resolve environ (passed environ line)).tlsSni = row) ∧
      (resolve environ .none).tlsSni = row := by
  have python := lists_intercalate.1.mpr proper
  have rust := lists_intercalate.2 proper
  have variable_ : env environ "TLS_SNI" "" = [','].intercalate row := by
    change (environ "RUSTWASGI_TLS_SNI").getD [] = _
    rw [written, Option.getD_some]
  constructor
  · intro ungiven
    simp only [resolve, passed, ungiven, if_true, variable_, python, written, Option.map_some,
      Option.getD_some, rust]
    exact ite_id row
  · simp only [resolve, TlsOptions.none, if_true, written, Option.map_some, Option.getD_some, rust]

/-- With an empty variable for the directory, a certificate is not ordered but made up. -/
theorem isMock_of_empty {start : AcmeStart} (ungiven : line.acmeDirectory = none)
    (empty : environ "RUSTWASGI_ACME_DIRECTORY" = some [])
    (enabled : (resolve environ (passed environ line)).acmeConfig = some start) :
    start.config.isMock = true := by
  have directory : (resolve environ (passed environ line)).acmeDirectory = some [] := by
    rw [resolve, passed, ungiven, ← empty]
    exact orElse_kept
  rw [TlsOptions.acmeConfig, Option.ite_none_left_eq_some, Option.map_eq_some_iff] at enabled
  rcases enabled with ⟨_, email, _, rfl⟩
  simp [AcmeConfig.isMock, directory]

/-- A worker beats twice in a timeout that is long enough. -/
theorem heartbeat_within (environ : Environ) (gunicorn : GunicornWorker) :
    0 < (worker environ gunicorn).heartbeatInterval ∧
      (2 ≤ gunicorn.timeout →
        2 * (worker environ gunicorn).heartbeatInterval ≤ gunicorn.timeout) := by
  simp only [worker, orDefault]
  split <;> omega

end Resolution

/-- Where the settings of a standalone server come from, with any interpreter, in any environment
and for any command line. Numbers in the environment have to be numbers even where the command line
gives them; the options are the documented ones exactly where the precedence is kept; a worker has
those of a silent command line, but for lists that are read differently; and a list of entries
reaches both. -/
theorem settings_documented (integers : Integers) (environ : Environ) (line : CommandLine) :
    ((∃ call, main integers environ line = .ok call) ↔
        ∀ name ∈ ["RUSTWASGI_PORT", "RUSTWASGI_WORKERS", "RUSTWASGI_KEEP_ALIVE"],
          ∀ text ∈ environ name, (pythonInt integers text).isSome) ∧
      ∀ config, standalone integers environ line = .ok config →
        (config.options = documented environ line ↔ Honoured environ line) ∧
          ∀ gunicorn,
            (line.Silent → (config.options = (worker environ gunicorn).config.options ↔
              (∀ text ∈ environ "RUSTWASGI_ACME_DOMAINS", Alike text) ∧
                ∀ text ∈ environ "RUSTWASGI_TLS_SNI", Alike text)) ∧
              ∀ row : List Text, (∀ entry ∈ row, IsField ',' isSpace entry) →
                environ "RUSTWASGI_TLS_SNI" = some ([','].intercalate row) →
                (line.tlsSni = [] → config.options.tlsSni = row) ∧
                  (worker environ gunicorn).config.options.tlsSni = row := by
  refine ⟨main_ok, fun config started => ?_⟩
  rw [options_standalone started]
  exact ⟨options_documented_iff, fun gunicorn => ⟨fun silent => options_worker_iff silent,
    fun row proper written => sni_of_environ proper written⟩⟩

/-- An environment that redirects, and names no contact for ACME. -/
def redirecting : Environ
  | "RUSTWASGI_REDIRECT_HTTP_TO_HTTPS" => some ['1']
  | "RUSTWASGI_ACME_EMAIL" => some []
  | _ => none

def optionless : CommandLine :=
  { app := "app:app".toList, host := none, port := none, workers := none, logLevel := none,
    rootPath := none, lifespan := none, accessLog := none, keepAlive := none, tlsCert := none,
    tlsKey := none, tlsSni := [], redirectHttpToHttps := none, acmeDirectory := none,
    acmeEmail := none, acmeDomains := [], acmeDir := none }

/-- The command line cannot turn the redirect off. -/
theorem settings_documented_redirecting :
    ∃ config, standalone cpython redirecting { optionless with redirectHttpToHttps := some false } =
        .ok config ∧
      config.options.redirectHttpToHttps = true ∧ config.options.acmeEmail = some [] ∧
      config.options ≠
        documented redirecting { optionless with redirectHttpToHttps := some false } := by
  have started : ∃ config, standalone cpython redirecting
      { optionless with redirectHttpToHttps := some false } = .ok config ∧
      config.options.redirectHttpToHttps = true ∧ config.options.acmeEmail = some [] :=
    ⟨_, by rfl, rfl, rfl⟩
  rcases started with ⟨config, started, redirects, email⟩
  rcases settings_documented cpython redirecting
      { optionless with redirectHttpToHttps := some false } with ⟨_, resolved⟩
  refine ⟨config, started, redirects, email, fun same => ?_⟩
  exact ((resolved config started).1.mp same).redirect rfl rfl

end RustAsgi.Settings
