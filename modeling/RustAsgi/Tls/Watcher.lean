import Mathlib.Logic.Function.Basic
import RustAsgi.Machine
import RustAsgi.Tls.Reload

/-!
# The certificate watcher

`cert_watcher` remembers the modification times of the two files and reloads when a
tick finds others. What it remembers from the start is only right about the served
pair if nothing was written between the initial load and its first look.
-/

namespace RustAsgi.Tls

open Machine

/-- The modification times of the two files. -/
structure Mtimes where
  cert : Option ℕ
  key : Option ℕ
  deriving DecidableEq, Repr

namespace Mtimes

def of (certPath keyPath : Path) (files : FileSystem) : Mtimes :=
  { cert := (files certPath).modified, key := (files keyPath).modified }

/-- `cert_mtime.is_some() && key_mtime.is_some()`. -/
def present (sample : Mtimes) : Bool :=
  sample.cert.isSome && sample.key.isSome

/-- The times were taken before `clock`. -/
def Older (sample : Mtimes) (clock : ℕ) : Prop :=
  (∀ modified ∈ sample.cert, modified < clock) ∧ ∀ modified ∈ sample.key, modified < clock

theorem Older.mono {sample : Mtimes} {clock later : ℕ} (older : sample.Older clock)
    (passed : clock ≤ later) : sample.Older later := by
  constructor
  · intro modified member
    have before := older.1 modified member
    omega
  · intro modified member
    have before := older.2 modified member
    omega

end Mtimes

/-- The files after a write at the time `clock`. A missing file has no modification time. -/
def written (files : FileSystem) (clock : ℕ) (path : Path) (read : FileRead) : FileSystem :=
  Function.update files path { read, modified := if read = .missing then none else some clock }

theorem written_eq {files : FileSystem} {clock modified : ℕ} {path other : Path} {read : FileRead}
    (same : (written files clock path read other).modified = some modified)
    (before : modified < clock) : written files clock path read other = files other := by
  by_cases here : other = path
  · subst other
    simp only [written, Function.update_self] at same
    split at same
    · cases same
    · rw [Option.some.injEq] at same
      omega
  · simp only [written, Function.update_of_ne here]

theorem written_of_ne {files : FileSystem} {clock : ℕ} {path other : Path} {read : FileRead}
    (elsewhere : path ≠ other) : written files clock path read other = files other :=
  Function.update_of_ne elsewhere.symm _ _

/-- Every file that can be found has a modification time, and an earlier one than the next. -/
structure Stamped (files : FileSystem) (clock : ℕ) : Prop where
  found : ∀ path, (files path).read ≠ .missing → (files path).modified.isSome = true
  past : ∀ path, ∀ modified ∈ (files path).modified, modified < clock

theorem Stamped.write {files : FileSystem} {clock : ℕ} (stamped : Stamped files clock) (path : Path)
    (read : FileRead) : Stamped (written files clock path read) (clock + 1) := by
  constructor
  · intro other
    by_cases here : other = path
    · subst other
      simp only [written, Function.update_self]
      intro present
      simp [present]
    · rw [written_of_ne (Ne.symm here)]
      exact stamped.found other
  · intro other modified member
    by_cases here : other = path
    · subst other
      simp only [written, Function.update_self] at member
      split at member
      · cases member
      · rw [Option.mem_some_iff] at member
        omega
    · rw [written_of_ne (Ne.symm here)] at member
      have before := stamped.past other modified member
      omega

/-- One round of the watcher's loop, from the tick on. -/
inductive Tick where
  | sampleCert
  | sampleKey (cert : Option ℕ)
  /-- Sleeps for 500ms. -/
  | debounce (sample : Mtimes)
  | reload (sample : Mtimes) (reload : Reload)
  /-- The round is over; `last` is what is remembered from now on. -/
  | returned (sample last : Mtimes) (result : Except TlsError Unit)

section Step

variable (pki : Pki) (certPath keyPath : Path)

def Tick.step (last : Mtimes) (files : FileSystem) (tls : TlsState) :
    Tick → Option (TlsState × Tick)
  | .sampleCert => some (tls, .sampleKey (files certPath).modified)
  | .sampleKey cert =>
      let sample : Mtimes := { cert, key := (files keyPath).modified }
      if sample ≠ last ∧ sample.present = true then some (tls, .debounce sample)
      else some (tls, .returned sample last (.ok ()))
  | .debounce sample => some (tls, .reload sample (.loading .readCert))
  | .reload sample (.done (.ok ())) => some (tls, .returned sample sample (.ok ()))
  -- The old configuration is kept, and the next tick will try again.
  | .reload sample (.done (.error failure)) =>
      some (tls, .returned sample last (.error failure))
  | .reload sample load =>
      (load.step pki certPath keyPath files tls).map fun (tls, load) => (tls, .reload sample load)
  | .returned _ _ _ => none

/-- A process from the initial load on, as far as the certificate is concerned. -/
inductive Stage where
  /-- `TlsState::from_pem_files`. -/
  | loading (load : Load)
  | refused (failure : TlsError)
  /-- Lifespan startup, up to the first look of the watcher. -/
  | starting (tls : TlsState)
  /-- The watcher has taken the modification time of the certificate. -/
  | initialized (tls : TlsState) (cert : Option ℕ)
  /-- The watcher awaits its next tick; `sampled` lists what the ticks so far have found. -/
  | waiting (tls : TlsState) (last : Mtimes) (sampled : List Mtimes)
  | ticking (tls : TlsState) (last : Mtimes) (sampled : List Mtimes) (tick : Tick)
  | stopped (tls : TlsState)

structure Process where
  files : FileSystem
  /-- The modification time of the next write. -/
  clock : ℕ
  stage : Stage

namespace Process

inductive Action where
  /-- Somebody writes a file, or removes it. -/
  | write (path : Path) (read : FileRead)
  | advance
  | shutdown
  deriving DecidableEq, Repr

def advance (s : Process) : Option Stage :=
  match s.stage with
  | .loading (.built (.error failure)) => some (.refused failure)
  | .loading (.built (.ok config)) =>
      some (.starting
        { config, certCount := 1, certPath := some certPath, keyPath := some keyPath })
  | .loading load => (load.step pki certPath keyPath s.files).map .loading
  | .refused _ => none
  | .starting tls => some (.initialized tls (s.files certPath).modified)
  | .initialized tls cert => some (.waiting tls { cert, key := (s.files keyPath).modified } [])
  | .waiting tls last sampled => some (.ticking tls last sampled .sampleCert)
  | .ticking tls _ sampled (.returned sample last _) =>
      some (.waiting tls last (sample :: sampled))
  | .ticking tls last sampled tick =>
      (tick.step pki certPath keyPath last s.files tls).map fun (tls, tick) =>
        .ticking tls last sampled tick
  | .stopped _ => none

def step (s : Process) : Action → Option Process
  | .write path read =>
      some { s with files := written s.files s.clock path read, clock := s.clock + 1 }
  | .advance => (s.advance pki certPath keyPath).map fun stage => { s with stage }
  | .shutdown =>
      match s.stage with
      | .waiting tls _ _ => some { s with stage := .stopped tls }
      | _ => none

/-- The two files hold a pair that passes `validate_pair`. -/
def Valid (files : FileSystem) : Prop :=
  ∃ certs key, loadCertChain pki certPath (files certPath).read = .ok certs ∧
    loadPrivateKey pki keyPath (files keyPath).read = .ok key ∧ validatePair pki certs key = .ok ()

/-- The configuration that a load of the current contents builds. -/
def current (files : FileSystem) : Except TlsError ServerConfig :=
  buildSingleConfig pki certPath keyPath (files certPath).read (files keyPath).read

/-- After a tick that has found what the tick before it found, and a valid pair, the files are
served as they are. -/
def Converged (s : Process) : Prop :=
  ∀ tls last sample earlier, s.stage = .waiting tls last (sample :: sample :: earlier) →
    Mtimes.of certPath keyPath s.files = sample → Valid pki certPath keyPath s.files →
    current pki certPath keyPath s.files = .ok tls.acceptor

/-- Nothing is written to a file between its initial read and the watcher's first look at it. -/
def undisturbed (s : Process) : Action → Bool
  | .write path _ =>
      match s.stage with
      | .loading (.readKey _) => decide (path ≠ certPath)
      | .loading (.built (.ok _)) | .starting _ => decide (path ≠ certPath ∧ path ≠ keyPath)
      | .initialized _ _ => decide (path ≠ keyPath)
      | _ => true
  | _ => true

def Undisturbed (s : Process) (action : Action) : Prop :=
  s.undisturbed certPath keyPath action = true

instance (s : Process) (action : Action) : Decidable (s.Undisturbed certPath keyPath action) :=
  inferInstanceAs (Decidable (_ = _))

end Process

end Step

namespace Process

variable {pki : Pki} {certPath keyPath path : Path} {read : FileRead} {s next final : Process}
  {action : Action} {actions : List Action} {files : FileSystem} {clock : ℕ} {stamp last : Mtimes}
  {tls later : TlsState} {property : FileRead → FileRead → Prop}

/-- The two files have the property as long as they bear these modification times. -/
structure Vouched (certPath keyPath : Path) (files : FileSystem) (clock : ℕ) (stamp : Mtimes)
    (property : FileRead → FileRead → Prop) : Prop where
  older : stamp.Older clock
  holds : Mtimes.of certPath keyPath files = stamp → stamp.present = true →
    property (files certPath).read (files keyPath).read

theorem Vouched.write (vouched : Vouched certPath keyPath files clock stamp property) :
    Vouched certPath keyPath (written files clock path read) (clock + 1) stamp property := by
  refine ⟨vouched.older.mono (Nat.le_succ clock), ?_⟩
  intro same present
  have both := present
  simp only [Mtimes.present, Bool.and_eq_true, Option.isSome_iff_exists] at both
  rcases both with ⟨⟨certTime, cert⟩, keyTime, key⟩
  have certSame : written files clock path read certPath = files certPath :=
    written_eq ((congrArg Mtimes.cert same).trans cert) (vouched.older.1 certTime cert)
  have keySame : written files clock path read keyPath = files keyPath :=
    written_eq ((congrArg Mtimes.key same).trans key) (vouched.older.2 keyTime key)
  rw [certSame, keySame]
  apply vouched.holds _ present
  rw [← same]
  simp only [Mtimes.of, certSame, keySame]

theorem Vouched.mono {other : FileRead → FileRead → Prop}
    (vouched : Vouched certPath keyPath files clock stamp property)
    (weaker : ∀ cert key, property cert key → other cert key) :
    Vouched certPath keyPath files clock stamp other :=
  ⟨vouched.older, fun same present => weaker _ _ (vouched.holds same present)⟩

/-- A load of files with these contents has this result. -/
def Loads (pki : Pki) (certPath keyPath : Path) (result : Except TlsError ServerConfig)
    (cert key : FileRead) : Prop :=
  buildSingleConfig pki certPath keyPath cert key = result

/-- If files with these contents hold a valid pair, it is the one that is served. -/
def Serves (pki : Pki) (certPath keyPath : Path) (tls : TlsState) (cert key : FileRead) : Prop :=
  (∃ certs loaded, loadCertChain pki certPath cert = .ok certs ∧
    loadPrivateKey pki keyPath key = .ok loaded ∧ validatePair pki certs loaded = .ok ()) →
  buildSingleConfig pki certPath keyPath cert key = .ok tls.acceptor

/-- What a load under way knows of the files of the sample. -/
def LoadKnows (pki : Pki) (certPath keyPath : Path) (files : FileSystem) (clock : ℕ)
    (sample : Mtimes) : Load → Prop
  | .readCert => sample.Older clock
  | .readKey certs =>
      Vouched certPath keyPath files clock sample fun cert _ =>
        loadCertChain pki certPath cert = .ok certs
  | .built result => Vouched certPath keyPath files clock sample (Loads pki certPath keyPath result)

def TickKnows (pki : Pki) (certPath keyPath : Path) (files : FileSystem) (clock : ℕ)
    (tls : TlsState) (last : Mtimes) : Tick → Prop
  | .sampleCert =>
      Vouched certPath keyPath files clock last (Loads pki certPath keyPath (.ok tls.config))
  | .sampleKey cert =>
      Vouched certPath keyPath files clock last (Loads pki certPath keyPath (.ok tls.config)) ∧
        ∀ modified ∈ cert, modified < clock
  | .debounce sample =>
      Vouched certPath keyPath files clock last (Loads pki certPath keyPath (.ok tls.config)) ∧
        sample.Older clock
  | .reload sample (.loading load) =>
      Vouched certPath keyPath files clock last (Loads pki certPath keyPath (.ok tls.config)) ∧
        LoadKnows pki certPath keyPath files clock sample load
  | .reload sample (.done (.ok _)) =>
      Vouched certPath keyPath files clock sample (Loads pki certPath keyPath (.ok tls.config))
  | .reload sample (.done (.error _)) =>
      Vouched certPath keyPath files clock last (Loads pki certPath keyPath (.ok tls.config)) ∧
        Vouched certPath keyPath files clock sample (Serves pki certPath keyPath tls)
  | .returned sample kept _ =>
      Vouched certPath keyPath files clock kept (Loads pki certPath keyPath (.ok tls.config)) ∧
        Vouched certPath keyPath files clock sample (Serves pki certPath keyPath tls)

/-- What each stage of the process knows of the files. -/
def Knows (pki : Pki) (certPath keyPath : Path) (s : Process) : Prop :=
  match s.stage with
  | .loading .readCert | .loading (.built (.error _)) | .refused _ | .stopped _ => True
  | .loading (.readKey certs) => loadCertChain pki certPath (s.files certPath).read = .ok certs
  | .loading (.built (.ok config)) =>
      Loads pki certPath keyPath (.ok config) (s.files certPath).read (s.files keyPath).read
  | .starting tls =>
      Loads pki certPath keyPath (.ok tls.config) (s.files certPath).read (s.files keyPath).read
  | .initialized tls cert =>
      Vouched certPath keyPath s.files s.clock { cert, key := (s.files keyPath).modified }
        (Loads pki certPath keyPath (.ok tls.config))
  | .waiting tls last sampled =>
      Vouched certPath keyPath s.files s.clock last (Loads pki certPath keyPath (.ok tls.config)) ∧
        ∀ sample ∈ sampled.head?,
          Vouched certPath keyPath s.files s.clock sample (Serves pki certPath keyPath tls)
  | .ticking tls last _ tick => TickKnows pki certPath keyPath s.files s.clock tls last tick

structure Informed (pki : Pki) (certPath keyPath : Path) (s : Process) : Prop where
  stamped : Stamped s.files s.clock
  knows : Knows pki certPath keyPath s

theorem LoadKnows.write {sample : Mtimes} {load : Load}
    (knows : LoadKnows pki certPath keyPath files clock sample load) :
    LoadKnows pki certPath keyPath (written files clock path read) (clock + 1) sample load := by
  cases load with
  | readCert => exact Mtimes.Older.mono knows (Nat.le_succ clock)
  | readKey certs => exact Vouched.write knows
  | built result => exact Vouched.write knows

theorem TickKnows.write {tick : Tick}
    (knows : TickKnows pki certPath keyPath files clock tls last tick) :
    TickKnows pki certPath keyPath (written files clock path read) (clock + 1) tls last tick := by
  cases tick with
  | sampleCert => exact Vouched.write knows
  | sampleKey cert =>
      refine ⟨knows.1.write, ?_⟩
      intro modified member
      have before := knows.2 modified member
      omega
  | debounce sample => exact ⟨knows.1.write, knows.2.mono (Nat.le_succ clock)⟩
  | reload sample reload =>
      cases reload with
      | loading load => exact ⟨knows.1.write, knows.2.write⟩
      | done result =>
          cases result with
          | ok => exact Vouched.write knows
          | error => exact ⟨knows.1.write, knows.2.write⟩
  | returned sample kept result => exact ⟨knows.1.write, knows.2.write⟩

theorem Informed.write (informed : Informed pki certPath keyPath s)
    (undisturbed : s.Undisturbed certPath keyPath (.write path read)) :
    Informed pki certPath keyPath
      { s with files := written s.files s.clock path read, clock := s.clock + 1 } := by
  refine ⟨informed.stamped.write path read, ?_⟩
  have knows := informed.knows
  rcases s with ⟨files, clock, stage⟩
  cases stage with
  | loading load =>
      cases load with
      | readCert => trivial
      | readKey certs =>
          simp only [Undisturbed, Process.undisturbed, decide_eq_true_eq] at undisturbed
          simp only [Knows, written_of_ne undisturbed]
          exact knows
      | built result =>
          cases result with
          | error => trivial
          | ok config =>
              simp only [Undisturbed, Process.undisturbed, decide_eq_true_eq] at undisturbed
              simp only [Knows, written_of_ne undisturbed.1, written_of_ne undisturbed.2]
              exact knows
  | refused | stopped => trivial
  | starting tls =>
      simp only [Undisturbed, Process.undisturbed, decide_eq_true_eq] at undisturbed
      simp only [Knows, written_of_ne undisturbed.1, written_of_ne undisturbed.2]
      exact knows
  | initialized tls cert =>
      simp only [Undisturbed, Process.undisturbed, decide_eq_true_eq] at undisturbed
      simp only [Knows, written_of_ne undisturbed]
      exact Vouched.write knows
  | waiting tls last sampled =>
      exact ⟨knows.1.write, fun sample member => (knows.2 sample member).write⟩
  | ticking tls last sampled tick => exact TickKnows.write knows

theorem serves_of_loads {cert key : FileRead}
    (loads : Loads pki certPath keyPath (.ok tls.config) cert key) :
    Serves pki certPath keyPath tls cert key :=
  fun _ => loads

theorem serves_of_fails {cert key : FileRead} {failure : TlsError}
    (accepts : ∀ ck, pki.fromDer ck = .ok () → pki.withSingleCert ck = .ok ())
    (fails : Loads pki certPath keyPath (.error failure) cert key) :
    Serves pki certPath keyPath tls cert key := by
  rintro ⟨certs, loaded, chain, private_, valid⟩
  have built : pki.withSingleCert { certs, key := loaded } = .ok () := by
    apply accepts
    simp only [validatePair] at valid
    split at valid
    · cases valid
    · assumption
  rw [Loads, buildSingleConfig_of_chain chain] at fails
  simp only [buildWithChain, private_, valid, singleConfig, built, bind, Except.bind] at fails
  cases fails

theorem LoadKnows.step {sample : Mtimes} {load loaded : Load}
    (knows : LoadKnows pki certPath keyPath files clock sample load)
    (stepped : load.step pki certPath keyPath files = some loaded) :
    LoadKnows pki certPath keyPath files clock sample loaded := by
  cases load with
  | readCert =>
      simp only [Load.step] at stepped
      split at stepped <;> cases stepped
      · rename_i failure broken
        exact ⟨knows, fun _ _ => buildSingleConfig_of_error broken⟩
      · rename_i certs chain
        exact ⟨knows, fun _ _ => chain⟩
  | readKey certs =>
      cases stepped
      refine ⟨knows.older, ?_⟩
      intro same present
      exact buildSingleConfig_of_chain (knows.holds same present)
  | built => cases stepped

theorem TickKnows.step {tick ticked : Tick}
    (accepts : ∀ ck, pki.fromDer ck = .ok () → pki.withSingleCert ck = .ok ())
    (stamped : Stamped files clock)
    (knows : TickKnows pki certPath keyPath files clock tls last tick)
    (stepped : tick.step pki certPath keyPath last files tls = some (later, ticked)) :
    TickKnows pki certPath keyPath files clock later last ticked := by
  cases tick with
  | sampleCert =>
      cases stepped
      exact ⟨knows, stamped.past certPath⟩
  | sampleKey cert =>
      have older : ({ cert, key := (files keyPath).modified } : Mtimes).Older clock :=
        ⟨knows.2, stamped.past keyPath⟩
      simp only [Tick.step] at stepped
      split at stepped <;> cases stepped
      · exact ⟨knows.1, older⟩
      · rename_i unchanged
        refine ⟨knows.1, older, ?_⟩
        intro same present
        have remembered : ({ cert, key := (files keyPath).modified } : Mtimes) = last := by
          by_contra changed
          exact unchanged ⟨changed, present⟩
        rw [remembered] at same present
        exact serves_of_loads (knows.1.holds same present)
  | debounce sample =>
      cases stepped
      exact knows
  | reload sample reload =>
      cases reload with
      | loading load =>
          cases load with
          | readCert | readKey =>
              simp only [Tick.step, Reload.step, Option.map_map, Option.map_eq_some_iff,
                Function.comp_apply, Prod.mk.injEq] at stepped
              rcases stepped with ⟨loaded, moved, rfl, rfl⟩
              exact ⟨knows.1, knows.2.step moved⟩
          | built result =>
              cases result <;> cases stepped
              · exact ⟨knows.1, knows.2.mono fun _ _ => serves_of_fails accepts⟩
              · exact knows.2
      | done result =>
          cases result <;> cases stepped
          · exact knows
          · exact ⟨knows, knows.mono fun _ _ => serves_of_loads⟩
  | returned => cases stepped

theorem Informed.advance {stage : Stage}
    (accepts : ∀ ck, pki.fromDer ck = .ok () → pki.withSingleCert ck = .ok ())
    (informed : Informed pki certPath keyPath s)
    (advanced : s.advance pki certPath keyPath = some stage) :
    Informed pki certPath keyPath { s with stage } := by
  refine ⟨informed.stamped, ?_⟩
  have stamped := informed.stamped
  have knows := informed.knows
  rcases s with ⟨files, clock, before⟩
  cases before with
  | loading load =>
      cases load with
      | readCert =>
          simp only [Process.advance, Load.step] at advanced
          split at advanced <;> cases advanced
          · trivial
          · assumption
      | readKey certs =>
          cases advanced
          have chain : loadCertChain pki certPath (files certPath).read = .ok certs := knows
          generalize built : buildWithChain pki keyPath certs (files keyPath).read = result
          cases result with
          | error => trivial
          | ok config => exact (buildSingleConfig_of_chain chain).trans built
      | built result =>
          cases result <;> cases advanced
          · trivial
          · exact knows
  | refused | stopped => cases advanced
  | starting tls =>
      cases advanced
      refine ⟨⟨stamped.past certPath, stamped.past keyPath⟩, ?_⟩
      intro _ _
      exact knows
  | initialized tls cert =>
      cases advanced
      refine ⟨knows, ?_⟩
      intro _ sampled
      cases sampled
  | waiting tls last sampled =>
      cases advanced
      exact knows.1
  | ticking tls last sampled tick =>
      cases tick with
      | returned sample kept result =>
          cases advanced
          refine ⟨knows.1, ?_⟩
          intro found member
          cases member
          exact knows.2
      | sampleCert | sampleKey | debounce | reload =>
          simp only [Process.advance, Option.map_eq_some_iff] at advanced
          rcases advanced with ⟨⟨later, ticked⟩, moved, rfl⟩
          simp only [Knows] at knows
          exact knows.step accepts stamped moved

theorem Informed.step (accepts : ∀ ck, pki.fromDer ck = .ok () → pki.withSingleCert ck = .ok ())
    (informed : Informed pki certPath keyPath s)
    (undisturbed : s.Undisturbed certPath keyPath action)
    (stepped : s.step pki certPath keyPath action = some next) :
    Informed pki certPath keyPath next := by
  cases action with
  | write path read =>
      cases stepped
      exact informed.write undisturbed
  | advance =>
      simp only [Process.step, Option.map_eq_some_iff] at stepped
      rcases stepped with ⟨stage, advanced, rfl⟩
      exact informed.advance accepts advanced
  | shutdown =>
      simp only [Process.step] at stepped
      split at stepped <;> cases stepped
      exact ⟨informed.stamped, trivial⟩

theorem Informed.converged (informed : Informed pki certPath keyPath s) :
    Converged pki certPath keyPath s := by
  intro tls last sample earlier stage same valid
  have knows := informed.knows
  simp only [Knows, stage] at knows
  have present : sample.present = true := by
    have stamped := informed.stamped
    rcases valid with ⟨certs, loaded, chain, private_, _⟩
    have certFound : (s.files certPath).read ≠ .missing := by
      intro absent
      rw [absent] at chain
      cases chain
    have keyFound : (s.files keyPath).read ≠ .missing := by
      intro absent
      rw [absent] at private_
      cases private_
    rw [← same]
    simp only [Mtimes.present, Mtimes.of, Bool.and_eq_true]
    exact ⟨stamped.found certPath certFound, stamped.found keyPath keyFound⟩
  exact (knows.2 sample rfl).holds same present valid

/-- The watcher converges to the files if nothing was written between the initial load and its
first look at them. -/
theorem converged_of_undisturbed
    (accepts : ∀ ck, pki.fromDer ck = .ok () → pki.withSingleCert ck = .ok ())
    (stamped : Stamped files clock)
    (undisturbed : Along (step pki certPath keyPath)
      (fun s action => s.Undisturbed certPath keyPath action)
      ⟨files, clock, .loading .readCert⟩ actions)
    (ran : run (step pki certPath keyPath) ⟨files, clock, .loading .readCert⟩ actions =
      some final) : Converged pki certPath keyPath final := by
  have informed : Informed pki certPath keyPath final :=
    run_invariant (Informed pki certPath keyPath)
      (fun _ _ _ informed allowed stepped => informed.step accepts allowed stepped) undisturbed ran
      ⟨stamped, trivial⟩
  exact informed.converged

def certPem : Path :=
  ⟨"tls", "cert", some "pem"⟩

def keyPem : Path :=
  ⟨"tls", "key", some "pem"⟩

/-- The first pair is in place when the process starts. -/
def startup : Process :=
  { files := fun path => if path = certPem ∨ path = keyPem then
      { read := .contents [1], modified := some 0 } else { read := .missing, modified := none }
    clock := 1
    stage := .loading .readCert }

/-- Load, and take the first look at the files. -/
def loading : List Action :=
  [.advance, .advance, .advance]

def looking : List Action :=
  [.advance, .advance]

/-- Another pair is written. -/
def rewriting : List Action :=
  [.write certPem (.contents [2]), .write keyPem (.contents [2])]

/-- A tick that finds the files as they are remembered. -/
def idleTick : List Action :=
  [.advance, .advance, .advance, .advance]

/-- A tick that reloads. -/
def busyTick : List Action :=
  [.advance, .advance, .advance, .advance, .advance, .advance, .advance, .advance, .advance]

/-- A pair that the watcher takes for the served one without a load is not served by the ticks
that follow, as long as nobody writes the files again. -/
theorem stale_of_unloaded {cert : Option ℕ} (stage : s.stage = .initialized tls cert)
    (untouched : (s.files certPath).modified = cert) (valid : Valid pki certPath keyPath s.files)
    (unloaded : current pki certPath keyPath s.files ≠ .ok tls.acceptor) :
    ∃ final, run (step pki certPath keyPath) s (.advance :: (idleTick ++ idleTick)) = some final ∧
      ¬ Converged pki certPath keyPath final := by
  rcases s with ⟨files, clock, before⟩
  cases stage
  change (files certPath).modified = cert at untouched
  subst cert
  refine ⟨⟨files, clock, .waiting tls (.of certPath keyPath files)
    [.of certPath keyPath files, .of certPath keyPath files]⟩, ?_, ?_⟩
  · simp [idleTick, run_cons, step, Process.advance, Tick.step, Mtimes.of]
  · intro converged
    exact unloaded (converged tls _ _ [] rfl rfl valid)

theorem stamped_startup : Stamped startup.files startup.clock := by
  constructor
  · intro path
    simp only [startup]
    split <;> simp
  · intro path modified member
    simp only [startup] at member
    split at member
    · cases member
      exact Nat.one_pos
    · cases member

theorem converged_of_undisturbed_rewritten :
    ∃ final, run (step twins certPem keyPem) startup
        (loading ++ looking ++ idleTick ++ rewriting ++ busyTick ++ idleTick) = some final ∧
      Converged twins certPem keyPem final := by
  have ran : ∃ final, run (step twins certPem keyPem) startup
      (loading ++ looking ++ idleTick ++ rewriting ++ busyTick ++ idleTick) = some final :=
    ⟨_, rfl⟩
  rcases ran with ⟨final, ran⟩
  refine ⟨final, ran, converged_of_undisturbed ?_ stamped_startup ?_ ran⟩
  · intro ck _
    rfl
  · decide

/-- The pair is replaced while the application starts: the watcher takes the times of the new files
for those of the served pair. -/
theorem stale_from_startup :
    ∃ final, run (step twins certPem keyPem) startup
        (loading ++ rewriting ++ looking ++ idleTick ++ idleTick) = some final ∧
      ¬ Converged twins certPem keyPem final := by
  refine ⟨_, rfl, ?_⟩
  intro converged
  have served := converged _ _ _ _ rfl rfl ⟨[[2]], [2], rfl, rfl, rfl⟩
  cases served

end Process

end RustAsgi.Tls
