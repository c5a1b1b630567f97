import RustAsgi.Machine
import RustAsgi.Tls.Config

/-!
# The reloadable TLS state

`tls/reload.rs`. The served configuration sits behind one shared pointer, which
`acceptor()` reads and `reload` swaps. A load opens two files one after the other,
so `reload_from_pem` is a small machine that takes one of them per step, and
anything may happen to the files in between.
-/

namespace RustAsgi.Tls

open Fallible

/-- A file as its readers see it: what a read finds, and its modification time. -/
structure File where
  read : FileRead
  /-- `metadata(path).modified().ok()`. -/
  modified : Option ℕ
  deriving DecidableEq, Repr

abbrev FileSystem := Path → File

structure TlsState where
  config : ServerConfig
  certCount : ℕ
  certPath : Option Path
  keyPath : Option Path
  deriving DecidableEq, Repr

namespace TlsState

/-- `from_pem_files`, given what its two reads find. -/
def fromPemFiles (pki : Pki) (certPath keyPath : Path) (certFile keyFile : FileRead) :
    Except TlsError TlsState := do
  let config ← buildSingleConfig pki certPath keyPath certFile keyFile
  .ok { config, certCount := 1, certPath := some certPath, keyPath := some keyPath }

def fromSniEntries (pki : Pki) (entries : List SniEntry) (default : Option SniEntry) :
    Except TlsError TlsState := do
  let config ← buildSniConfig pki entries default
  .ok { config, certCount := max entries.length 1, certPath := none, keyPath := none }

/-- What `acceptor()` hands out. -/
def acceptor (tls : TlsState) : ServerConfig :=
  tls.config

def reload (tls : TlsState) (config : ServerConfig) : TlsState :=
  { tls with config }

/-- `reload_from_pem`, given what its two reads find. -/
def reloadFromPem (pki : Pki) (tls : TlsState) (certPath keyPath : Path)
    (certFile keyFile : FileRead) : Except TlsError TlsState := do
  let config ← buildSingleConfig pki certPath keyPath certFile keyFile
  .ok (tls.reload config)

/-- What a call of `reload_from_pem` leaves, and what it returns. -/
def afterReload (pki : Pki) (tls : TlsState) (certPath keyPath : Path)
    (certFile keyFile : FileRead) : TlsState × Except TlsError Unit :=
  match tls.reloadFromPem pki certPath keyPath certFile keyFile with
  | .ok reloaded => (reloaded, .ok ())
  | .error failure => (tls, .error failure)

/-- The state is swapped for what has been built, if anything. -/
def swapped (tls : TlsState) : Except TlsError ServerConfig → TlsState × Except TlsError Unit
  | .ok config => (tls.reload config, .ok ())
  | .error failure => (tls, .error failure)

end TlsState

/-- Where a call of `build_single_config` stands. -/
inductive Load where
  | readCert
  | readKey (certs : List Bytes)
  | built (result : Except TlsError ServerConfig)

/-- Where a call of `reload_from_pem` stands. -/
inductive Reload where
  | loading (load : Load)
  | done (result : Except TlsError Unit)

section Step

variable (pki : Pki) (certPath keyPath : Path) (files : FileSystem)

/-- What `build_single_config` does once it has the chain. -/
def buildWithChain (certs : List Bytes) (keyFile : FileRead) : Except TlsError ServerConfig := do
  let key ← loadPrivateKey pki keyPath keyFile
  validatePair pki certs key
  singleConfig pki certs key

/-- One step of `build_single_config`: one file is read. -/
def Load.step : Load → Option Load
  | .readCert =>
      match loadCertChain pki certPath (files certPath).read with
      | .error failure => some (.built (.error failure))
      | .ok certs => some (.readKey certs)
  | .readKey certs => some (.built (buildWithChain pki keyPath certs (files keyPath).read))
  | .built _ => none

/-- One step of `reload_from_pem`. -/
def Reload.step (tls : TlsState) : Reload → Option (TlsState × Reload)
  | .loading (.built (.ok config)) => some (tls.reload config, .done (.ok ()))
  | .loading (.built (.error failure)) => some (tls, .done (.error failure))
  | .loading load => (load.step pki certPath keyPath files).map fun load => (tls, .loading load)
  | .done _ => none

end Step

section Load

variable {pki : Pki} {certPath keyPath : Path} {certFile keyFile : FileRead} {certs : List Bytes}

theorem buildSingleConfig_of_chain (chain : loadCertChain pki certPath certFile = .ok certs) :
    buildSingleConfig pki certPath keyPath certFile keyFile =
      buildWithChain pki keyPath certs keyFile := by
  simp only [buildSingleConfig, buildWithChain, chain]
  rfl

theorem buildSingleConfig_of_error {failure : TlsError}
    (broken : loadCertChain pki certPath certFile = .error failure) :
    buildSingleConfig pki certPath keyPath certFile keyFile = .error failure := by
  simp only [buildSingleConfig, broken]
  rfl

end Load

section Runs

variable {pki : Pki} {certPath keyPath : Path} {tls final : TlsState}
  {result : Except TlsError Unit}

theorem afterReload_eq (pki : Pki) (tls : TlsState) (certPath keyPath : Path)
    (certFile keyFile : FileRead) :
    tls.afterReload pki certPath keyPath certFile keyFile =
      tls.swapped (buildSingleConfig pki certPath keyPath certFile keyFile) := by
  simp only [TlsState.afterReload, TlsState.reloadFromPem]
  cases buildSingleConfig pki certPath keyPath certFile keyFile <;> rfl

/-- A call of `reload_from_pem` as a machine of its own, which finds other files at each step. -/
def Reload.next (pki : Pki) (certPath keyPath : Path) (state : TlsState × Reload)
    (files : FileSystem) : Option (TlsState × Reload) :=
  state.2.step pki certPath keyPath files state.1

theorem run_of_done {actions : List FileSystem} {outcome : Except TlsError Unit}
    (ran : Machine.run (Reload.next pki certPath keyPath) (tls, .done outcome) actions =
      some (final, .done result)) : final = tls ∧ result = outcome := by
  cases actions with
  | nil =>
      simp only [Machine.run_nil, Option.some.injEq, Prod.mk.injEq, Reload.done.injEq] at ran
      exact ⟨ran.1.symm, ran.2.symm⟩
  | cons files rest =>
      rcases Machine.run_cons_eq_some.mp ran with ⟨_, stepped, _⟩
      cases stepped

theorem run_of_built {actions : List FileSystem} {loaded : Except TlsError ServerConfig}
    (ran : Machine.run (Reload.next pki certPath keyPath) (tls, .loading (.built loaded)) actions =
      some (final, .done result)) :
    (final, result) = tls.swapped loaded := by
  cases actions with
  | nil => cases ran
  | cons files rest =>
      rcases Machine.run_cons_eq_some.mp ran with ⟨middle, stepped, ran⟩
      cases loaded with
      | ok config =>
          cases stepped
          rcases run_of_done ran with ⟨rfl, rfl⟩
          rfl
      | error failure =>
          cases stepped
          rcases run_of_done ran with ⟨rfl, rfl⟩
          rfl

/-- A call that runs to its end does what `reloadFromPem` does with the two files it has found,
each at its own moment. -/
theorem afterReload_of_run {actions : List FileSystem}
    (ran : Machine.run (Reload.next pki certPath keyPath) (tls, .loading .readCert) actions =
      some (final, .done result)) :
    ∃ first ∈ actions, ∃ second ∈ actions, (final, result) =
      tls.afterReload pki certPath keyPath (first certPath).read (second keyPath).read := by
  cases actions with
  | nil => cases ran
  | cons first rest =>
      rcases Machine.run_cons_eq_some.mp ran with ⟨middle, stepped, ran⟩
      cases chain : loadCertChain pki certPath (first certPath).read with
      | error failure =>
          simp only [Reload.next, Reload.step, Load.step, chain, Option.map_some,
            Option.some.injEq] at stepped
          subst stepped
          refine ⟨first, List.mem_cons_self, first, List.mem_cons_self, (run_of_built ran).trans ?_⟩
          rw [afterReload_eq, buildSingleConfig_of_error chain]
      | ok certs =>
          simp only [Reload.next, Reload.step, Load.step, chain, Option.map_some,
            Option.some.injEq] at stepped
          subst stepped
          cases rest with
          | nil => cases ran
          | cons second rest =>
              rcases Machine.run_cons_eq_some.mp ran with ⟨middle, stepped, ran⟩
              cases stepped
              refine ⟨first, List.mem_cons_self, second,
                List.mem_cons_of_mem _ List.mem_cons_self, (run_of_built ran).trans ?_⟩
              rw [afterReload_eq, buildSingleConfig_of_chain chain]

end Runs

/-- The files of an entry give a certified key, and its domain is a name. -/
def SniEntry.Loads (pki : Pki) (entry : SniEntry) : Prop :=
  (∃ ck, entry.certifiedKey pki = .ok ck) ∧ pki.serverName entry.domain = true

section Entries

variable {pki : Pki} {entries : List SniEntry} {default : Option SniEntry} {resolver : SniResolver}

theorem add_loads {name : String} {ck : CertifiedKey} :
    (∃ added, resolver.add pki name ck = .ok added) ↔ pki.serverName name = true := by
  cases named : pki.serverName name <;> simp [SniResolver.add, named]

theorem addEntries_loads :
    (∃ added, addEntries pki resolver entries = .ok added) ↔
      ∀ entry ∈ entries, entry.Loads pki := by
  induction entries generalizing resolver with
  | nil => simp [addEntries]
  | cons entry rest ih =>
      rw [List.forall_mem_cons, addEntries, bind_succeeds]
      simp only [bind_succeeds, ih]
      constructor
      · rintro ⟨ck, certified, middle, inserted, others⟩
        exact ⟨⟨⟨ck, certified⟩, add_loads.mp ⟨middle, inserted⟩⟩, others⟩
      · rintro ⟨⟨⟨ck, certified⟩, named⟩, others⟩
        rcases (@add_loads pki resolver entry.domain ck).mpr named with ⟨middle, inserted⟩
        exact ⟨ck, certified, middle, inserted, others⟩

theorem buildSniConfig_loads :
    (∃ config, buildSniConfig pki entries default = .ok config) ↔
      (∀ entry ∈ entries, entry.Loads pki) ∧
        ∀ entry ∈ default, ∃ ck, entry.certifiedKey pki = .ok ck := by
  rw [buildSniConfig, bind_succeeds, ← @addEntries_loads pki entries .new]
  cases default with
  | none => simp
  | some entry => simp [bind_succeeds]

theorem fromSniEntries_loads :
    (∃ tls, TlsState.fromSniEntries pki entries default = .ok tls) ↔
      (∀ entry ∈ entries, entry.Loads pki) ∧
        ∀ entry ∈ default, ∃ ck, entry.certifiedKey pki = .ok ck := by
  rw [← buildSniConfig_loads, TlsState.fromSniEntries, bind_succeeds]
  simp

theorem fromPemFiles_loads {certPath keyPath : Path} {certFile keyFile : FileRead} :
    (∃ tls, TlsState.fromPemFiles pki certPath keyPath certFile keyFile = .ok tls) ↔
      ∃ config, buildSingleConfig pki certPath keyPath certFile keyFile = .ok config := by
  rw [TlsState.fromPemFiles, bind_succeeds]
  simp

end Entries

end RustAsgi.Tls
