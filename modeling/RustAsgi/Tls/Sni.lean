import RustAsgi.Tls.Reload

/-!
# Hosts by name

A state that was built from SNI entries answers each name with the last entry for
it. The entries live in the configuration that a reload swaps, and every reload
goes through `build_single_config`: after the first one that succeeds there is one
certificate for all names.
-/

namespace RustAsgi.Tls

open Fallible

/-- A call of `reload_from_pem`, by itself or at the end of a renewal, with what its two reads
find. A renewal for `domains` may fail before it gets there. -/
inductive Change where
  | reload (certPath keyPath : Path) (certFile keyFile : FileRead)
  | renewal (domains : List String) (failure : Option String) (certPath keyPath : Path)
      (certFile keyFile : FileRead)
  deriving DecidableEq, Repr

/-- The last entry whose domain is this name, up to the case of ASCII letters. -/
def lastFor (name : String) : List SniEntry → Option SniEntry
  | [] => none
  | entry :: rest =>
      match lastFor name rest with
      | some later => some later
      | none => if toAsciiLowercase entry.domain = toAsciiLowercase name then some entry else none

section Changes

variable (pki : Pki)

def Change.apply (tls : TlsState) : Change → TlsState
  | .reload certPath keyPath certFile keyFile
  | .renewal _ none certPath keyPath certFile keyFile =>
      (tls.afterReload pki certPath keyPath certFile keyFile).1
  | .renewal _ (some _) _ _ _ _ => tls

def afterChanges (tls : TlsState) (changes : List Change) : TlsState :=
  changes.foldl (Change.apply pki) tls

/-- The key that a load of these files serves. -/
def loadedKey (certPath keyPath : Path) (certFile keyFile : FileRead) : Option CertifiedKey :=
  match buildSingleConfig pki certPath keyPath certFile keyFile with
  | .ok { certResolver := .single ck, .. } => some ck
  | _ => none

/-- The key that a change which succeeds installs. -/
def Change.installs : Change → Option CertifiedKey
  | .reload certPath keyPath certFile keyFile
  | .renewal _ none certPath keyPath certFile keyFile =>
      loadedKey pki certPath keyPath certFile keyFile
  | .renewal _ (some _) _ _ _ _ => none

def Change.domains : Change → List String
  | .reload _ _ _ _ => []
  | .renewal domains _ _ _ _ _ => domains

def lastInstalled (changes : List Change) : Option CertifiedKey :=
  (changes.filterMap (Change.installs pki)).getLast?

def defaultKey (default : Option SniEntry) : Option CertifiedKey :=
  default.bind fun entry => (entry.certifiedKey pki).toOption

/-- A renewal for this name has installed the key. -/
def RenewedFor (changes : List Change) (name : String) (ck : CertifiedKey) : Prop :=
  ∃ change ∈ changes, change.installs pki = some ck ∧
    ∃ domain ∈ change.domains, toAsciiLowercase domain = toAsciiLowercase name

/-- The key is the one configured for the name, or one that was renewed for it. -/
def Suits (entry : SniEntry) (changes : List Change) (name : String) (ck : CertifiedKey) : Prop :=
  entry.certifiedKey pki = .ok ck ∨ RenewedFor pki changes name ck

/-- Every configured name gets a key of its own, and every other client the default. -/
structure KeepsHosts (entries : List SniEntry) (default : Option SniEntry) (changes : List Change)
    (tls : TlsState) : Prop where
  hosts : ∀ name entry, lastFor name entries = some entry →
    ∃ ck, tls.acceptor.certResolver.resolve (some name) = some ck ∧ Suits pki entry changes name ck
  others : ∀ name, lastFor name entries = none →
    tls.acceptor.certResolver.resolve (some name) = defaultKey pki default
  nameless : tls.acceptor.certResolver.resolve none = defaultKey pki default

/-- The key installed last, if any, is the default and suits every configured name. -/
def FitsAll (entries : List SniEntry) (default : Option SniEntry) (changes : List Change) : Prop :=
  ∀ ck, lastInstalled pki changes = some ck → defaultKey pki default = some ck ∧
    ∀ name entry, lastFor name entries = some entry → Suits pki entry changes name ck

end Changes

section Hosts

variable {pki : Pki} {entries rest : List SniEntry} {entry : SniEntry} {default : Option SniEntry}
  {tls : TlsState} {changes : List Change} {change : Change} {resolver added : SniResolver}
  {name : String} {ck : CertifiedKey}

theorem lastFor_cons :
    lastFor name (entry :: rest) = (lastFor name rest).or
      (if toAsciiLowercase entry.domain = toAsciiLowercase name then some entry else none) := by
  simp only [lastFor]
  cases lastFor name rest <;> rfl

theorem add_ok (inserted : resolver.add pki name ck = .ok added) :
    added = { resolver with byName := (toAsciiLowercase name, ck) :: resolver.byName } := by
  simp only [SniResolver.add] at inserted
  split at inserted
  · exact (Except.ok.inj inserted).symm
  · cases inserted

theorem addEntries_cons (built : addEntries pki resolver (entry :: rest) = .ok added) :
    ∃ ck, entry.certifiedKey pki = .ok ck ∧
      addEntries pki { resolver with
        byName := (toAsciiLowercase entry.domain, ck) :: resolver.byName } rest = .ok added := by
  rcases bind_eq_ok.mp built with ⟨ck, certified, built⟩
  rcases bind_eq_ok.mp built with ⟨middle, inserted, built⟩
  rw [add_ok inserted] at built
  exact ⟨ck, certified, built⟩

theorem default_addEntries (built : addEntries pki resolver entries = .ok added) :
    added.default = resolver.default := by
  induction entries generalizing resolver with
  | nil => exact congrArg SniResolver.default (Except.ok.inj built).symm
  | cons entry rest ih =>
      rcases addEntries_cons built with ⟨ck, _, built⟩
      have kept := ih built
      exact kept

theorem lookup_addEntries_of_none (unlisted : lastFor name entries = none)
    (built : addEntries pki resolver entries = .ok added) :
    added.byName.lookup (toAsciiLowercase name) =
      resolver.byName.lookup (toAsciiLowercase name) := by
  induction entries generalizing resolver with
  | nil => rw [Except.ok.inj built]
  | cons entry rest ih =>
      rcases addEntries_cons built with ⟨ck, _, built⟩
      rw [lastFor_cons, Option.or_eq_none_iff] at unlisted
      have other : (toAsciiLowercase name == toAsciiLowercase entry.domain) = false := by
        rw [beq_eq_false_iff_ne]
        intro same
        simp [same] at unlisted
      rw [ih unlisted.1 built, List.lookup_cons, other]

theorem lookup_addEntries_of_some (listed : lastFor name entries = some entry)
    (built : addEntries pki resolver entries = .ok added) :
    ∃ ck, entry.certifiedKey pki = .ok ck ∧
      added.byName.lookup (toAsciiLowercase name) = some ck := by
  induction entries generalizing resolver with
  | nil => cases listed
  | cons head rest ih =>
      rcases addEntries_cons built with ⟨ck, certified, built⟩
      rw [lastFor_cons] at listed
      cases later : lastFor name rest with
      | some found =>
          rw [later] at listed
          cases listed
          exact ih later built
      | none =>
          rw [later, Option.none_or] at listed
          split at listed
          next same =>
            cases listed
            refine ⟨ck, certified, ?_⟩
            rw [lookup_addEntries_of_none later built, List.lookup_cons, same, beq_self_eq_true]
          next => cases listed

theorem fromSniEntries_ok (built : TlsState.fromSniEntries pki entries default = .ok tls) :
    ∃ resolver, addEntries pki .new entries = .ok resolver ∧
      tls.config.certResolver = .sni { resolver with default := defaultKey pki default } := by
  rcases bind_eq_ok.mp built with ⟨config, configured, built⟩
  rcases bind_eq_ok.mp configured with ⟨resolver, filled, configured⟩
  cases Except.ok.inj built
  refine ⟨resolver, filled, ?_⟩
  cases default with
  | none =>
      cases Except.ok.inj configured
      have empty : resolver.default = none := default_addEntries filled
      rw [defaultKey, Option.bind_none, ← empty]
  | some entry =>
      rcases bind_eq_ok.mp configured with ⟨ck, certified, configured⟩
      cases Except.ok.inj configured
      simp only [defaultKey, Option.bind_some, certified]
      rfl

theorem resolver_afterReload (pki : Pki) (tls : TlsState) (certPath keyPath : Path)
    (certFile keyFile : FileRead) :
    (tls.afterReload pki certPath keyPath certFile keyFile).1.config.certResolver =
      ((loadedKey pki certPath keyPath certFile keyFile).map CertResolver.single).getD
        tls.config.certResolver := by
  rw [afterReload_eq]
  cases loaded : buildSingleConfig pki certPath keyPath certFile keyFile with
  | ok config =>
      rcases buildSingleConfig_ok loaded with ⟨certs, key, _, _, _, built⟩
      have single := singleConfig_ok built
      have key_loaded : loadedKey pki certPath keyPath certFile keyFile = some { certs, key } := by
        simp only [loadedKey, loaded, single]
      rw [key_loaded]
      exact congrArg ServerConfig.certResolver single
  | error failure =>
      simp only [loadedKey, loaded]
      rfl

theorem resolver_apply :
    (change.apply pki tls).config.certResolver =
      ((change.installs pki).map CertResolver.single).getD tls.config.certResolver := by
  rcases change with ⟨certPath, keyPath, certFile, keyFile⟩ |
    ⟨domains, _ | failure, certPath, keyPath, certFile, keyFile⟩
  · exact resolver_afterReload pki tls certPath keyPath certFile keyFile
  · exact resolver_afterReload pki tls certPath keyPath certFile keyFile
  · rfl

theorem resolver_afterChanges (pki : Pki) (tls : TlsState) (changes : List Change) :
    (afterChanges pki tls changes).config.certResolver =
      ((lastInstalled pki changes).map CertResolver.single).getD tls.config.certResolver := by
  induction changes generalizing tls with
  | nil => rfl
  | cons change later ih =>
      rw [afterChanges, List.foldl_cons, ← afterChanges, ih, resolver_apply, lastInstalled,
        lastInstalled, List.filterMap_cons]
      cases change.installs pki with
      | none => rfl
      | some ck =>
          rw [List.getLast?_cons]
          cases (later.filterMap (Change.installs pki)).getLast? <;> rfl

theorem keepsHosts_of_built (built : TlsState.fromSniEntries pki entries default = .ok tls)
    {later : TlsState} (kept : later.config.certResolver = tls.config.certResolver) :
    KeepsHosts pki entries default changes later := by
  rcases fromSniEntries_ok built with ⟨resolver, filled, resolves⟩
  have answers : ∀ serverName, later.acceptor.certResolver.resolve serverName =
      (serverName.bind fun name => resolver.byName.lookup (toAsciiLowercase name)).or
        (defaultKey pki default) := by
    intro serverName
    rw [TlsState.acceptor, kept, resolves, CertResolver.resolve, SniResolver.resolve]
    cases serverName.bind fun name => resolver.byName.lookup (toAsciiLowercase name) <;> rfl
  refine ⟨?_, ?_, ?_⟩
  · intro name entry listed
    rcases lookup_addEntries_of_some listed filled with ⟨ck, certified, found⟩
    refine ⟨ck, ?_, .inl certified⟩
    rw [answers, Option.bind_some, found, Option.some_or]
  · intro name unlisted
    rw [answers, Option.bind_some, lookup_addEntries_of_none unlisted filled]
    rfl
  · rw [answers]
    rfl

theorem keepsHosts_of_single (single : tls.config.certResolver = .single ck) :
    KeepsHosts pki entries default changes tls ↔ defaultKey pki default = some ck ∧
      ∀ name entry, lastFor name entries = some entry → Suits pki entry changes name ck := by
  have answers : ∀ serverName, tls.acceptor.certResolver.resolve serverName = some ck := by
    intro serverName
    rw [TlsState.acceptor, single]
    rfl
  refine ⟨fun keeps => ⟨?_, ?_⟩, fun fits => ⟨?_, ?_, ?_⟩⟩
  · rw [← keeps.nameless, answers]
  · intro name entry listed
    rcases keeps.hosts name entry listed with ⟨served, resolves, suits⟩
    rw [answers] at resolves
    rwa [Option.some.inj resolves]
  · intro name entry listed
    exact ⟨ck, answers (some name), fits.2 name entry listed⟩
  · intro name _
    rw [answers, fits.1]
  · rw [answers, fits.1]

/-- Hosts survive reloads exactly as long as none succeeds, or the key of the last one that did
is right for every client. -/
theorem keepsHosts_iff_fitsAll (entries : List SniEntry) (default : Option SniEntry)
    (tls : TlsState) (built : TlsState.fromSniEntries pki entries default = .ok tls)
    (changes : List Change) :
    KeepsHosts pki entries default changes (afterChanges pki tls changes) ↔
      FitsAll pki entries default changes := by
  have swapped := resolver_afterChanges pki tls changes
  cases installed : lastInstalled pki changes with
  | none =>
      rw [installed] at swapped
      refine ⟨fun _ ck last => ?_, fun _ => keepsHosts_of_built built swapped⟩
      rw [installed] at last
      cases last
  | some ck =>
      rw [installed] at swapped
      rw [keepsHosts_of_single swapped]
      refine ⟨fun fits last same => ?_, fun fits => fits ck installed⟩
      rw [installed] at same
      cases same
      exact fits

end Hosts

section TwoHosts

def storedAt (stem : String) (byte : UInt8) (domain : String) : SniEntry where
  domain := domain
  certPath := { directory := "tls", stem, extension := some "pem" }
  keyPath := { directory := "tls", stem, extension := some "key" }
  certFile := .contents [byte]
  keyFile := .contents [byte]

def twoHosts : List SniEntry :=
  [storedAt "a" 1 "a.example", storedAt "b" 2 "B.example"]

/-- Renewals of the first host, the second of which fails before it installs anything. -/
def renewedFirst : Change :=
  .renewal ["a.example"] none { directory := "acme", stem := "cert", extension := some "pem" }
    { directory := "acme", stem := "key", extension := some "pem" } (.contents [3]) (.contents [3])

def notRenewed : Change :=
  .renewal ["a.example"] (some "key gen: Unspecified")
    { directory := "acme", stem := "cert", extension := some "pem" }
    { directory := "acme", stem := "key", extension := some "pem" } .missing .missing

/-- The hosts stay, with another key than the configured default for other clients. -/
theorem keepsHosts_iff_fitsAll_unrenewed :
    ∃ tls, TlsState.fromSniEntries twins twoHosts (some (storedAt "c" 4 "")) = .ok tls ∧
      KeepsHosts twins twoHosts (some (storedAt "c" 4 "")) [notRenewed, notRenewed]
        (afterChanges twins tls [notRenewed, notRenewed]) := by
  refine ⟨_, rfl, ?_⟩
  refine (keepsHosts_iff_fitsAll twoHosts (some (storedAt "c" 4 "")) _ rfl
    [notRenewed, notRenewed]).mpr ?_
  intro ck installed
  cases installed

/-- A renewal of the first host takes the second one over. -/
theorem host_lost_by_renewal :
    ∃ tls, TlsState.fromSniEntries twins twoHosts none = .ok tls ∧
      ¬ KeepsHosts twins twoHosts none [renewedFirst] (afterChanges twins tls [renewedFirst]) := by
  refine ⟨_, rfl, ?_⟩
  intro keeps
  have listed : lastFor "b.example" twoHosts = some (storedAt "b" 2 "B.example") := by decide
  rcases keeps.hosts "b.example" _ listed with ⟨ck, served, suits⟩
  cases served
  rcases suits with configured | ⟨change, ran, _, domain, renewed, same⟩
  · cases configured
  · rw [List.mem_singleton] at ran
    subst ran
    rw [renewedFirst, Change.domains, List.mem_singleton] at renewed
    subst renewed
    exact absurd same (by decide)

end TwoHosts

end RustAsgi.Tls
