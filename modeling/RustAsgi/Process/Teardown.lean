import RustAsgi.Http.Message
import RustAsgi.Lifespan.Startup
import RustAsgi.Tls.Reload

/-!
# The life of a serving process

`serve_process_on` is handed an event loop that runs in a thread of its own. It sets
up TLS, runs the lifespan start-up, serves, runs the lifespan shutdown, and stops and
joins the loop. The steps that take the loop down stand at its end, behind every
early return.
-/

namespace RustAsgi.Process

open Fallible Tls

/-- The files that the loads read. -/
structure Disk where
  /-- A `PathBuf`, taken apart. -/
  path : Text → Path
  /-- What the read of a number finds at a path. -/
  read : ℕ → Path → FileRead

/-- The pair of files that is loaded after `count` others. -/
def Disk.pair (disk : Disk) (count : ℕ) (domain : Text) (certPath keyPath : Path) : SniEntry :=
  { domain := String.ofList domain, certPath, keyPath, certFile := disk.read (2 * count) certPath,
    keyFile := disk.read (2 * count + 1) keyPath }

/-- The options that `serve_process_on` itself looks at. -/
structure ServerConfig where
  tlsCert : Option Text
  tlsKey : Option Text
  tlsSni : List Text
  lifespan : String

/-- One round of the loop over `--tls-sni`. -/
def parseEntry (disk : Disk) (entry : Text) : Except String (List (Text × Path × Path)) :=
  match entry.splitn ':' 3 with
  | [domain, cert, key] => .ok [(domain, disk.path cert, disk.path key)]
  | _ => .error ("invalid --tls-sni '" ++ String.ofList entry ++ "', expected 'domain:cert:key'")

def Disk.entries (disk : Disk) (parsed : List (Text × Path × Path)) : List SniEntry :=
  parsed.zipIdx.map fun ((domain, certPath, keyPath), count) =>
    disk.pair count domain certPath keyPath

@[simp]
theorem Disk.entries_nil (disk : Disk) : disk.entries [] = [] :=
  rfl

namespace ServerConfig

variable (pki : Pki) (disk : Disk) (config : ServerConfig)

/-- The default certificate next to those of `--tls-sni`, as the pair after theirs. -/
def default : Except String (Option SniEntry) :=
  match config.tlsCert, config.tlsKey with
  | some cert, some key =>
      .ok (some (disk.pair config.tlsSni.length [] (disk.path cert) (disk.path key)))
  | none, none => .ok none
  | _, _ => .error
      "both --tls-cert and --tls-key must be provided for default cert when using SNI"

def sniState : Except String TlsState := do
  let parsed ← collect (parseEntry disk) config.tlsSni
  let default ← config.default disk
  (TlsState.fromSniEntries pki (disk.entries parsed) default).mapError fun failure =>
    "failed to load SNI certs: " ++ failure.display

def pemState (cert key : Text) : Except String TlsState :=
  let pair := disk.pair 0 [] (disk.path cert) (disk.path key)
  (TlsState.fromPemFiles pki pair.certPath pair.keyPath pair.certFile pair.keyFile).mapError
    fun failure => "failed to load TLS cert/key: " ++ failure.display

def tlsState : Except String (Option TlsState) :=
  if config.tlsSni ≠ [] then do
    let tls ← config.sniState pki disk
    .ok (some tls)
  else
    match config.tlsCert, config.tlsKey with
    | some cert, some key => do
        let tls ← pemState pki disk cert key
        .ok (some tls)
    | none, none => .ok none
    | _, _ => .error "both --tls-cert and --tls-key must be provided"

end ServerConfig

/-- The entry reads `domain:cert:key`, where only the name of the key file may have colons. -/
def Spells (disk : Disk) (entry : Text) : Text × Path × Path → Prop
  | (domain, certPath, keyPath) =>
      ∃ cert key, entry = domain ++ ':' :: (cert ++ ':' :: key) ∧ ':' ∉ domain ∧ ':' ∉ cert ∧
        disk.path cert = certPath ∧ disk.path key = keyPath

/-- The TLS options can be used: alone, a certificate has to fit its key. -/
@[mk_iff]
structure ServerConfig.Loads (pki : Pki) (disk : Disk) (config : ServerConfig) : Prop where
  paired : config.tlsCert.isSome = config.tlsKey.isSome
  entries : ∃ parsed, List.Forall₂ (Spells disk) config.tlsSni parsed ∧
    ∀ entry ∈ disk.entries parsed, entry.Loads pki
  pair : ∀ cert ∈ config.tlsCert, ∀ key ∈ config.tlsKey,
    let pair := disk.pair config.tlsSni.length [] (disk.path cert) (disk.path key)
    if config.tlsSni = [] then
      ∃ config, buildSingleConfig pki pair.certPath pair.keyPath pair.certFile pair.keyFile =
        .ok config
    else ∃ ck, pair.certifiedKey pki = .ok ck

section Loads

variable {pki : Pki} {disk : Disk} {config : ServerConfig}

theorem parseEntry_eq_ok {entry : Text} {outputs : List (Text × Path × Path)} :
    parseEntry disk entry = .ok outputs ↔
      ∃ parsed, Spells disk entry parsed ∧ [parsed] = outputs := by
  constructor
  · intro parsed
    rw [parseEntry] at parsed
    split at parsed
    next domain cert key parts =>
      cases parsed
      rcases Text.splitn_eq_cons.mp parts with ⟨rest, rfl, unmarked, parts⟩
      rcases Text.splitn_eq_cons.mp parts with ⟨last, rfl, plain, parts⟩
      cases parts
      exact ⟨_, ⟨cert, key, rfl, unmarked, plain, rfl, rfl⟩, rfl⟩
    next => cases parsed
  · rintro ⟨⟨domain, certPath, keyPath⟩, ⟨cert, key, rfl, unmarked, plain, rfl, rfl⟩, rfl⟩
    rw [parseEntry, Text.splitn_append unmarked, Text.splitn_append plain, Text.splitn]

theorem sniState_loads :
    (∃ tls, config.sniState pki disk = .ok tls) ↔
      (∃ parsed, List.Forall₂ (Spells disk) config.tlsSni parsed ∧
        ∀ entry ∈ disk.entries parsed, entry.Loads pki) ∧
      ∃ default, config.default disk = .ok default ∧
        ∀ entry ∈ default, ∃ ck, entry.certifiedKey pki = .ok ck := by
  have parses : ∀ parsed, collect (parseEntry disk) config.tlsSni = .ok parsed ↔
      List.Forall₂ (Spells disk) config.tlsSni parsed := by
    intro parsed
    have founds := @collect_eq_ok String Text _ _ (parseEntry disk) (Spells disk)
      (fun parsed => [parsed]) config.tlsSni parsed fun _ _ _ => parseEntry_eq_ok
    simpa using founds
  simp only [ServerConfig.sniState, bind_succeeds, mapError_eq_ok, fromSniEntries_loads, parses]
  constructor
  · rintro ⟨parsed, spelled, default, configured, loaded, fallback⟩
    exact ⟨⟨parsed, spelled, loaded⟩, default, configured, fallback⟩
  · rintro ⟨⟨parsed, spelled, loaded⟩, default, configured, fallback⟩
    exact ⟨parsed, spelled, default, configured, loaded, fallback⟩

theorem default_loads :
    (∃ default, config.default disk = .ok default ∧
        ∀ entry ∈ default, ∃ ck, entry.certifiedKey pki = .ok ck) ↔
      config.tlsCert.isSome = config.tlsKey.isSome ∧
        ∀ cert ∈ config.tlsCert, ∀ key ∈ config.tlsKey, ∃ ck,
          (disk.pair config.tlsSni.length [] (disk.path cert) (disk.path key)).certifiedKey pki =
            .ok ck := by
  rw [ServerConfig.default]
  rcases config.tlsCert with _ | cert <;> rcases config.tlsKey with _ | key <;> simp

/-- Setting up TLS succeeds for the options that can be used. -/
theorem tlsState_loads :
    (∃ tls, config.tlsState pki disk = .ok tls) ↔ config.Loads pki disk := by
  rw [ServerConfig.loads_iff, ServerConfig.tlsState]
  by_cases single : config.tlsSni = []
  · simp only [single, ne_eq, not_true_eq_false, if_false, if_true]
    rcases config.tlsCert with _ | cert <;> rcases config.tlsKey with _ | key
    · simp
    · simp
    · simp
    · simp [bind_succeeds, ServerConfig.pemState, fromPemFiles_loads]
  · simp only [single, ne_eq, not_false_eq_true, if_true, if_false, bind_succeeds, Except.ok.injEq,
      exists_eq', and_true]
    rw [sniState_loads, default_loads]
    exact and_left_comm

end Loads

/-- What a call of `call_soon_threadsafe(loop.stop)` comes to. -/
inductive Attempt where
  | done
  /-- A `KeyboardInterrupt` is raised in it, before or after the request is in the queue. -/
  | interrupted (queued : Bool)
  | failed (queued : Bool)
  deriving DecidableEq, Repr

def Attempt.asks : Attempt → Bool
  | .done => true
  | .interrupted queued | .failed queued => queued

def Attempt.isInterrupted : Attempt → Bool
  | .interrupted _ => true
  | _ => false

/-- The loop and its thread, as `serve_process_on` finds them after serving. -/
structure LoopHandle where
  /-- What `is_running()` says; a failure counts as `false`. -/
  running : Bool
  /-- `getattr(loop, "stop")` succeeds. -/
  stop : Bool
  /-- The attempts to schedule the stop, if it comes to them. -/
  attempt : ℕ → Attempt
  /-- There is a `join_handle`. -/
  threaded : Bool
  /-- The thread ends in the end. -/
  ends : Bool

/-- The loop of `stop_asyncio_loop`, with so many tries: has any of them scheduled the stop? -/
def scheduleStop (attempt : ℕ → Attempt) : ℕ → Bool
  | 0 => false
  | tries + 1 =>
      match attempt 0 with
      | .done => true
      | .interrupted queued => queued || scheduleStop (fun n => attempt (n + 1)) tries
      | .failed queued => queued

/-- `stop_asyncio_loop`. -/
def LoopHandle.stopAsyncioLoop (handle : LoopHandle) : Bool :=
  handle.running && handle.stop && scheduleStop handle.attempt 3

/-- The loop runs, and one of three attempts schedules the stop, the others before it being
interrupted. -/
structure LoopHandle.Stoppable (handle : LoopHandle) : Prop where
  running : handle.running = true
  stop : handle.stop = true
  scheduled : ∃ n < 3, (handle.attempt n).asks = true ∧
    ∀ m < n, (handle.attempt m).isInterrupted = true

theorem scheduleStop_iff {attempt : ℕ → Attempt} {tries : ℕ} :
    scheduleStop attempt tries = true ↔
      ∃ n < tries, (attempt n).asks = true ∧ ∀ m < n, (attempt m).isInterrupted = true := by
  induction tries generalizing attempt with
  | zero => simp [scheduleStop]
  | succ tries ih =>
      rw [Nat.exists_lt_succ_left, scheduleStop]
      simp only [Nat.forall_lt_succ_left, Nat.not_lt_zero]
      cases first : attempt 0 with
      | done => simp [Attempt.asks]
      | interrupted queued => simp [Attempt.asks, Attempt.isInterrupted, ih]
      | failed queued => simp [Attempt.asks, Attempt.isInterrupted]

theorem stopAsyncioLoop_iff {handle : LoopHandle} :
    handle.stopAsyncioLoop = true ↔ handle.Stoppable := by
  simp only [LoopHandle.stopAsyncioLoop, Bool.and_eq_true, scheduleStop_iff]
  constructor
  · rintro ⟨⟨running, stop⟩, scheduled⟩
    exact ⟨running, stop, scheduled⟩
  · rintro ⟨running, stop, scheduled⟩
    exact ⟨⟨running, stop⟩, scheduled⟩

inductive Event where
  | stored (manager : LifespanManager)
  | served (tls : Option TlsState) (lifespanState : Option ℕ)
  /-- The shutdown handshake of a manager has been run. -/
  | shutDown (manager : LifespanManager)
  | tasksCancelled
  | stopAsked
  | joined
  deriving DecidableEq, Repr

/-- The static `LIFESPAN_MANAGER`, and what a call of `serve_process_on` has done. -/
structure State where
  lifespanManager : Option LifespanManager
  events : List Event
  deriving DecidableEq, Repr

namespace State

def start (lifespanManager : Option LifespanManager) : State :=
  { lifespanManager, events := [] }

def record (state : State) (event : Event) : State :=
  { state with events := state.events ++ [event] }

def storeLifespanManager (state : State) (manager : LifespanManager) : State :=
  { state with lifespanManager := some manager }.record (.stored manager)

/-- `take_lifespan_manager`, and the handshake of what it has taken. -/
def shutDownManager (state : State) : State :=
  match state.lifespanManager with
  | some manager => { state with lifespanManager := none }.record (.shutDown manager)
  | none => state

@[simp]
theorem events_start (lifespanManager : Option LifespanManager) :
    (start lifespanManager).events = [] :=
  rfl

@[simp]
theorem events_record (state : State) (event : Event) :
    (state.record event).events = state.events ++ [event] :=
  rfl

@[simp]
theorem lifespanManager_record (state : State) (event : Event) :
    (state.record event).lifespanManager = state.lifespanManager :=
  rfl

@[simp]
theorem events_storeLifespanManager (state : State) (manager : LifespanManager) :
    (state.storeLifespanManager manager).events = state.events ++ [.stored manager] :=
  rfl

@[simp]
theorem lifespanManager_storeLifespanManager (state : State) (manager : LifespanManager) :
    (state.storeLifespanManager manager).lifespanManager = some manager :=
  rfl

theorem events_shutDownManager (state : State) :
    state.shutDownManager.events =
      state.events ++ state.lifespanManager.toList.map Event.shutDown := by
  rw [shutDownManager]
  cases state.lifespanManager <;> simp

end State

/-- What a call of `serve_process_on` is handed, and what the calls in it come to. -/
structure Call where
  disk : Disk
  config : ServerConfig
  /-- The result of `LifespanManager::startup`. -/
  startup : StartupResult
  /-- The result of `server::serve`. -/
  served : Except String Unit
  handle : LoopHandle

namespace Call

variable (pki : Pki) (call : Call)

def mode : LifespanMode :=
  .parse call.config.lifespan

/-- A manager that the start-up returns is stored. -/
def lifespanStartup (state : State) : State :=
  match call.mode, call.startup with
  | .off, _ | _, .error _ => state
  | _, .ok manager => state.storeLifespanManager manager

/-- The async block. -/
def block (tls : Option TlsState) (state : State) : Except String Unit × State :=
  match lifespanState call.mode call.startup with
  | .error failure => (.error failure, state)
  | .ok scopeState =>
      let state := (call.lifespanStartup state).record (.served tls scopeState)
      match call.served with
      | .error failure => (.error failure, state)
      | .ok () => (.ok (), state.shutDownManager.record .tasksCancelled)

def stop (state : State) : State :=
  if call.handle.stopAsyncioLoop then state.record .stopAsked else state

/-- The join returns when the thread has ended. -/
def join (state : State) : Option State :=
  if call.handle.threaded then if call.handle.ends then some (state.record .joined) else none
  else some state

/-- `serve_process_on`, if it returns. -/
def serveProcessOn (state : State) : Option (Except String Unit × State) :=
  match call.config.tlsState pki call.disk with
  | .error failure => some (.error failure, state)
  | .ok tls =>
      match call.block tls state with
      | (.error failure, state) => some (.error failure, state)
      | (.ok (), state) => (call.join (call.stop state)).map fun state => (.ok (), state)

/-- The start-up lets the process serve: it is off, has succeeded, or may be unsupported. -/
def Starts : Prop :=
  call.mode = .off ∨ (∃ manager, call.startup = .ok manager) ∨
    call.mode = .auto ∧ ∃ message, call.startup = .error (.unsupported message)

/-- The call has taken down what it was handed and what it has started. -/
structure TornDown (state : State) : Prop where
  stopped : .stopAsked ∈ state.events
  joined : call.handle.threaded = true → .joined ∈ state.events
  shutDown : ∀ manager, .stored manager ∈ state.events →
    state.events.count (.shutDown manager) = 1

section Block

variable {call : Call} {tls : Option TlsState} {before : State}
  {lifespanManager : Option LifespanManager}

theorem lifespanState_ok :
    (∃ scopeState, lifespanState call.mode call.startup = .ok scopeState) ↔ call.Starts := by
  rw [Starts]
  rcases call.mode <;> rcases call.startup with (_ | _) | _ <;> simp [lifespanState]

theorem block_ok :
    (call.block tls before).1 = .ok () ↔ call.Starts ∧ call.served = .ok () := by
  rw [← lifespanState_ok, block]
  cases lifespanState call.mode call.startup with
  | error failure => simp
  | ok scopeState => cases call.served <;> simp

theorem lifespanStartup_cases (call : Call) (state : State) :
    call.lifespanStartup state = state ∨
      ∃ manager, call.lifespanStartup state = state.storeLifespanManager manager := by
  rw [lifespanStartup]
  split
  · exact .inl rfl
  · exact .inl rfl
  · exact .inr ⟨_, rfl⟩

/-- The block does not touch the loop. -/
theorem stopAsked_block (asked : .stopAsked ∈ (call.block tls before).2.events) :
    .stopAsked ∈ before.events := by
  rw [block] at asked
  cases resolved : lifespanState call.mode call.startup with
  | error failure =>
      rw [resolved] at asked
      exact asked
  | ok scopeState =>
      rw [resolved] at asked
      have started : .stopAsked ∈ (call.lifespanStartup before).events := by
        cases served : call.served with
        | error failure => simpa [served] using asked
        | ok done => simpa [served, State.events_shutDownManager] using asked
      rcases lifespanStartup_cases call before with same | ⟨manager, stored⟩
      · rwa [same] at started
      · simpa [stored] using started

theorem block_of_ok {scopeState : Option ℕ}
    (resolved : lifespanState call.mode call.startup = .ok scopeState)
    (served : call.served = .ok ()) :
    call.block tls before = (.ok (), ((call.lifespanStartup before).record
      (.served tls scopeState)).shutDownManager.record .tasksCancelled) := by
  rw [block, resolved, served]

/-- When the block succeeds, a manager that it has stored has been shut down, once. -/
theorem shutDown_block (succeeded : (call.block tls (.start lifespanManager)).1 = .ok ())
    {manager : LifespanManager}
    (stored : .stored manager ∈ (call.block tls (.start lifespanManager)).2.events) :
    (call.block tls (.start lifespanManager)).2.events.count (.shutDown manager) = 1 := by
  rcases block_ok.mp succeeded with ⟨starts, served⟩
  rcases lifespanState_ok.mpr starts with ⟨scopeState, resolved⟩
  rw [block_of_ok resolved served] at stored ⊢
  rcases lifespanStartup_cases call (.start lifespanManager) with same | ⟨kept, opened⟩
  · simp [same, State.events_shutDownManager] at stored
  · have found : manager = kept := by
      simpa [opened, State.events_shutDownManager] using stored
    subst found
    simp [opened, State.events_shutDownManager]

end Block

section Exits

variable {pki : Pki} {call : Call} {state final : State} {result : Except String Unit}

/-- A call returns early with an error, or goes through to the end. -/
theorem serveProcessOn_cases (returned : call.serveProcessOn pki state = some (result, final)) :
    ((∀ tls, call.config.tlsState pki call.disk ≠ .ok tls) ∧ final = state) ∨
      ∃ tls, call.config.tlsState pki call.disk = .ok tls ∧
        ((call.block tls state).1 ≠ .ok () ∧ final = (call.block tls state).2 ∨
          (call.block tls state).1 = .ok () ∧
            call.join (call.stop (call.block tls state).2) = some final) := by
  rw [serveProcessOn] at returned
  cases setUp : call.config.tlsState pki call.disk with
  | error failure =>
      rw [setUp] at returned
      cases returned
      exact .inl ⟨by simp, rfl⟩
  | ok tls =>
      rw [setUp] at returned
      refine .inr ⟨tls, rfl, ?_⟩
      rcases ran : call.block tls state with ⟨_ | _, after⟩
      · simp only [ran] at returned
        cases returned
        exact .inl ⟨by simp, rfl⟩
      · simp only [ran, Option.map_eq_some_iff] at returned
        rcases returned with ⟨ended, joined, same⟩
        cases same
        exact .inr ⟨rfl, joined⟩

theorem events_join (joined : call.join (call.stop state) = some final) :
    final.events = state.events ++
      (if call.handle.stopAsyncioLoop then [.stopAsked] else []) ++
      if call.handle.threaded then [.joined] else [] := by
  rw [join, stop] at joined
  split at joined
  next threaded =>
    split at joined
    · cases joined
      cases call.handle.stopAsyncioLoop <;> simp [threaded]
    · cases joined
  next threaded =>
    cases joined
    cases call.handle.stopAsyncioLoop <;> simp [threaded]

/-- A call whose thread ends returns. -/
theorem serveProcessOn_returns (ends : call.handle.ends = true) :
    ∃ result final, call.serveProcessOn pki state = some (result, final) := by
  have joins : ∀ state, ∃ final, call.join state = some final := by
    intro state
    cases threaded : call.handle.threaded <;> simp [join, threaded, ends]
  rw [serveProcessOn]
  cases call.config.tlsState pki call.disk with
  | error failure => exact ⟨_, _, rfl⟩
  | ok tls =>
      rcases ran : call.block tls state with ⟨failure | _, after⟩
      · exact ⟨.error failure, after, by simp only [ran]⟩
      · rcases joins (call.stop after) with ⟨final, joined⟩
        exact ⟨.ok (), final, by simp only [ran, joined, Option.map_some]⟩

/-- A call that goes through to its end takes the loop down if the loop is asked to stop. -/
theorem tornDown_of_joined {tls : Option TlsState} {lifespanManager : Option LifespanManager}
    (succeeded : (call.block tls (.start lifespanManager)).1 = .ok ())
    (joined : call.join (call.stop (call.block tls (.start lifespanManager)).2) = some final) :
    call.TornDown final ↔ call.handle.stopAsyncioLoop = true := by
  have recorded := events_join joined
  constructor
  · intro down
    by_contra refused
    have stopped := down.stopped
    rw [recorded] at stopped
    have asked : .stopAsked ∈ (call.block tls (.start lifespanManager)).2.events := by
      simpa [refused] using stopped
    cases stopAsked_block asked
  · intro asked
    constructor
    · simp [recorded, asked]
    · intro threaded
      simp [recorded, threaded]
    · intro manager stored
      have inside : .stored manager ∈ (call.block tls (.start lifespanManager)).2.events := by
        rw [recorded] at stored
        simpa [asked] using stored
      have once := shutDown_block succeeded inside
      rw [recorded, List.count_append, List.count_append, once]
      split <;> split <;> simp

end Exits

/-- A call takes the loop down exactly when the options can be used, the start-up lets the
process serve, serving succeeds, and the loop takes the request to stop. -/
theorem tornDown_iff {pki : Pki} {call : Call} {lifespanManager : Option LifespanManager}
    {result : Except String Unit} {final : State}
    (returned : call.serveProcessOn pki (.start lifespanManager) = some (result, final)) :
    call.TornDown final ↔ call.config.Loads pki call.disk ∧ call.Starts ∧ call.served = .ok () ∧
      call.handle.Stoppable := by
  rw [← tlsState_loads, ← stopAsyncioLoop_iff]
  rcases serveProcessOn_cases returned with
    ⟨failed, same⟩ | ⟨tls, setUp, early | ⟨succeeded, joined⟩⟩
  · subst same
    constructor
    · intro down
      cases down.stopped
    · rintro ⟨⟨tls, setUp⟩, _⟩
      exact absurd setUp (failed tls)
  · rcases early with ⟨failed, same⟩
    subst same
    constructor
    · intro down
      cases stopAsked_block down.stopped
    · rintro ⟨_, starts, served, _⟩
      exact absurd (block_ok.mpr ⟨starts, served⟩) failed
  · rcases block_ok.mp succeeded with ⟨starts, served⟩
    rw [tornDown_of_joined succeeded joined]
    constructor
    · intro asked
      exact ⟨⟨tls, setUp⟩, starts, served, asked⟩
    · rintro ⟨_, _, _, asked⟩
      exact asked

/-- A process with a certificate for one host, a lifespan and a loop that runs. -/
def wellFormed : Call :=
  { disk := { path := fun text => ⟨"certs", String.ofList text, none⟩,
              read := fun _ _ => .contents [48] },
    config := { tlsCert := none, tlsKey := none, tlsSni := [['a', ':', 'c', ':', 'k']],
                lifespan := "auto" },
    startup := .ok { state := some 0 },
    served := .ok (),
    handle := { running := true, stop := true, attempt := fun _ => .done, threaded := true,
                ends := true } }

theorem tornDown_iff_wellFormed :
    ∃ result final, wellFormed.serveProcessOn twins (.start none) = some (result, final) ∧
      wellFormed.TornDown final := by
  rcases @serveProcessOn_returns twins wellFormed (.start none) rfl with ⟨result, final, returned⟩
  have loads : wellFormed.config.Loads twins wellFormed.disk := by
    refine ⟨rfl, ⟨[(['a'], _, _)], .cons ⟨['c'], ['k'], rfl, ?_, ?_, rfl, rfl⟩ .nil, ?_⟩, ?_⟩
    · decide
    · decide
    · intro entry member
      cases List.mem_singleton.mp member
      exact ⟨⟨_, rfl⟩, rfl⟩
    · rintro cert ⟨⟩
  refine ⟨result, final, returned, (tornDown_iff returned).mpr ⟨loads, ?_, rfl, ?_⟩⟩
  · exact .inr (.inl ⟨_, rfl⟩)
  · exact ⟨rfl, rfl, 0, by decide, rfl, by simp⟩

/-- The process of an operator who gives `--tls-sni` no files. -/
def malformed : Call :=
  { wellFormed with config := { wellFormed.config with
      tlsSni := [['e', 'x', 'a', 'm', 'p', 'l', 'e']] } }

/-- The call returns an error, and the loop runs on. -/
theorem malformed_not_tornDown :
    malformed.serveProcessOn twins (.start none) =
        some (.error "invalid --tls-sni 'example', expected 'domain:cert:key'", .start none) ∧
      ¬malformed.TornDown (.start none) := by
  constructor
  · rfl
  · intro down
    cases down.stopped

end Call

end RustAsgi.Process
