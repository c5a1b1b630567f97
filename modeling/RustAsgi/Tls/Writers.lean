import RustAsgi.Acme.Certificate
import RustAsgi.Tls.Watcher

/-!
# The writers of the TLS state

Direct reloads, installations, renewals and the ticks of the watcher run side by
side and swap the same pointer, while anybody may change the files. A swap comes
last in an operation that succeeds, and what is swapped in has just been built.
-/

namespace RustAsgi.Tls

open Fallible Machine Site

/-- A renewal attempt: a certificate is issued, or generated, and installed. -/
inductive Renewal where
  | issuing
  | failed (error : String)
  | installing (call : Installation) (install : Install)

/-- The operations that may write the TLS state. A tick starts from what the watcher remembers. -/
inductive Operation where
  | reload (certPath keyPath : Path)
  | install (call : Installation)
  | renewal (certPath keyPath : Path)
  | tick (certPath keyPath : Path) (last : Mtimes)
  deriving DecidableEq, Repr

/-- An operation under way. -/
inductive Task where
  | reload (certPath keyPath : Path) (reload : Reload)
  | install (call : Installation) (install : Install)
  | renewal (certPath keyPath : Path) (renewal : Renewal)
  | tick (certPath keyPath : Path) (last : Mtimes) (tick : Tick)

def Operation.start : Operation → Task
  | .reload certPath keyPath => .reload certPath keyPath (.loading .readCert)
  | .install call => .install call .validate
  | .renewal certPath keyPath => .renewal certPath keyPath .issuing
  | .tick certPath keyPath last => .tick certPath keyPath last .sampleCert

/-- How the outside ends a step: a filesystem call, or the issue of a pair of PEM texts. -/
structure Event where
  outcome : Outcome
  issued : Except String (Bytes × Bytes)

section Step

variable (pki : Pki)

/-- `renew_self_signed` and `try_acme_issuance` with the task that calls them. -/
def Renewal.step (certPath keyPath : Path) (files : FileSystem) (tls : TlsState) (event : Event) :
    Renewal → Option (FileSystem × TlsState × Renewal)
  | .issuing =>
      match event.issued with
      | .error error => some (files, tls, .failed error)
      | .ok (certPem, keyPem) =>
          some (files, tls, .installing { certPem, keyPem, certPath, keyPath } .validate)
  | .failed _ => none
  | .installing call install =>
      (install.step pki call files tls event.outcome).map fun (files, tls, install) =>
        (files, tls, .installing call install)

def Task.step (files : FileSystem) (tls : TlsState) (event : Event) :
    Task → Option (FileSystem × TlsState × Task)
  | .reload certPath keyPath state =>
      (state.step pki certPath keyPath files tls).map fun (tls, state) =>
        (files, tls, .reload certPath keyPath state)
  | .install call state =>
      (state.step pki call files tls event.outcome).map fun (files, tls, state) =>
        (files, tls, .install call state)
  | .renewal certPath keyPath state =>
      (state.step pki certPath keyPath files tls event).map fun (files, tls, state) =>
        (files, tls, .renewal certPath keyPath state)
  | .tick certPath keyPath last state =>
      (state.step pki certPath keyPath last files tls).map fun (tls, state) =>
        (files, tls, .tick certPath keyPath last state)

structure Writers where
  files : FileSystem
  tls : TlsState
  tasks : List Task

namespace Writers

inductive Action where
  /-- Somebody changes a file, its modification time included. -/
  | change (path : Path) (file : File)
  | call (operation : Operation)
  | advance (index : ℕ) (event : Event)

def step (s : Writers) : Action → Option Writers
  | .change path file => some { s with files := Function.update s.files path file }
  | .call operation => some { s with tasks := s.tasks ++ [operation.start] }
  | .advance index event =>
      match s.tasks[index]? with
      | some task =>
          (task.step pki s.files s.tls event).map fun (files, tls, task) =>
            { files, tls, tasks := s.tasks.set index task }
      | none => none

/-- The operation whose step changes the TLS state. -/
def changes (s : Writers) (action : Action) : List ℕ :=
  match action, s.step pki action with
  | .advance index _, some next => if next.tls = s.tls then [] else [index]
  | _, _ => []

end Writers

end Step

section Built

variable {pki : Pki} {certPath keyPath : Path} {files next : FileSystem} {tls later : TlsState}
  {outcome : Outcome} {event : Event} {call : Installation}

/-- One call of `build_single_config` has built this from a chain and a key that pass
`validate_pair`. -/
def Validated (pki : Pki) (config : ServerConfig) : Prop :=
  ∃ certPath keyPath certFile keyFile certs key,
    buildSingleConfig pki certPath keyPath certFile keyFile = .ok config ∧
      loadCertChain pki certPath certFile = .ok certs ∧
      loadPrivateKey pki keyPath keyFile = .ok key ∧ validatePair pki certs key = .ok () ∧
      config.certResolver = .single { certs, key }

theorem validated_of_built {certFile keyFile : FileRead} {config : ServerConfig}
    (built : buildSingleConfig pki certPath keyPath certFile keyFile = .ok config) :
    Validated pki config := by
  rcases buildSingleConfig_ok built with ⟨certs, key, chain, loaded, valid, single⟩
  exact ⟨certPath, keyPath, certFile, keyFile, certs, key, built, chain, loaded, valid,
    congrArg ServerConfig.certResolver (singleConfig_ok single)⟩

/-- What a load under way has read is a chain, and what it has built is validated. -/
def Load.Sound (pki : Pki) (certPath : Path) : Load → Prop
  | .readKey certs => ∃ certFile, loadCertChain pki certPath certFile = .ok certs
  | .built (.ok config) => Validated pki config
  | _ => True

def Reload.Sound (pki : Pki) (certPath : Path) : Reload → Prop
  | .loading load => load.Sound pki certPath
  | .done _ => True

def Install.Sound (pki : Pki) (certPath : Path) : Install → Prop
  | .reload state => state.Sound pki certPath
  | _ => True

def Tick.Sound (pki : Pki) (certPath : Path) : Tick → Prop
  | .reload _ state => state.Sound pki certPath
  | _ => True

def Task.Sound (pki : Pki) : Task → Prop
  | .reload certPath _ state => state.Sound pki certPath
  | .install call state => state.Sound pki call.certPath
  | .renewal _ _ (.installing call state) => state.Sound pki call.certPath
  | .renewal _ _ _ => True
  | .tick certPath _ _ state => state.Sound pki certPath

theorem Load.Sound.step {load loaded : Load} (sound : load.Sound pki certPath)
    (stepped : load.step pki certPath keyPath files = some loaded) :
    loaded.Sound pki certPath := by
  cases load with
  | readCert =>
      simp only [Load.step] at stepped
      split at stepped <;> cases stepped
      · trivial
      · rename_i certs chain
        exact ⟨_, chain⟩
  | readKey certs =>
      rcases sound with ⟨certFile, chain⟩
      cases stepped
      generalize built : buildWithChain pki keyPath certs (files keyPath).read = result
      cases result with
      | error => trivial
      | ok config => exact validated_of_built ((buildSingleConfig_of_chain chain).trans built)
  | built => cases stepped

/-- The operation has swapped the pointer, or needs not, and cannot fail any more. -/
def Reload.Committed : Reload → Prop
  | .done (.ok _) => True
  | _ => False

def Install.Committed : Install → Prop
  | .reload state => state.Committed
  | .returned _ (.ok _) => True
  | _ => False

def Tick.Committed : Tick → Prop
  | .reload _ state => state.Committed
  | .returned _ _ (.ok _) => True
  | _ => False

def Task.Committed : Task → Prop
  | .reload _ _ state => state.Committed
  | .install _ state => state.Committed
  | .renewal _ _ (.installing _ state) => state.Committed
  | .renewal _ _ _ => False
  | .tick _ _ _ state => state.Committed

/-- The operation has returned `Err`. -/
def Task.Failed : Task → Prop
  | .reload _ _ (.done (.error _)) | .install _ (.returned _ (.error _))
  | .renewal _ _ (.failed _) | .renewal _ _ (.installing _ (.returned _ (.error _)))
  | .tick _ _ _ (.returned _ _ (.error _)) => True
  | _ => False

theorem Task.Committed.not_failed {task : Task} (committed : task.Committed) : ¬ task.Failed := by
  intro failed
  unfold Task.Failed at failed
  split at failed <;> first | exact committed | exact failed

/-- What a step does to the TLS state: nothing, or it serves what is validated and commits. -/
structure Effect (pki : Pki) (tls later : TlsState) (sound committed commits : Prop) : Prop where
  sound : sound
  swapped : later = tls ∨ (Validated pki later.config ∧ commits)
  kept : committed → commits

theorem Reload.effect {state moved : Reload} (sound : state.Sound pki certPath)
    (stepped : state.step pki certPath keyPath files tls = some (later, moved)) :
    Effect pki tls later (moved.Sound pki certPath) state.Committed moved.Committed := by
  cases state with
  | loading load =>
      cases load with
      | readCert | readKey =>
          simp only [Reload.step, Option.map_eq_some_iff, Prod.mk.injEq] at stepped
          rcases stepped with ⟨loaded, read, rfl, rfl⟩
          refine ⟨Load.Sound.step ?_ read, .inl rfl, id⟩
          exact sound
      | built result =>
          cases result <;> cases stepped
          · exact ⟨trivial, .inl rfl, False.elim⟩
          · exact ⟨trivial, .inr ⟨sound, trivial⟩, False.elim⟩
  | done => cases stepped

theorem Tick.effect {last : Mtimes} {state moved : Tick} (sound : state.Sound pki certPath)
    (stepped : state.step pki certPath keyPath last files tls = some (later, moved)) :
    Effect pki tls later (moved.Sound pki certPath) state.Committed moved.Committed := by
  cases state with
  | sampleCert | debounce =>
      cases stepped
      exact ⟨trivial, .inl rfl, False.elim⟩
  | sampleKey =>
      simp only [Tick.step] at stepped
      split at stepped <;> cases stepped <;> exact ⟨trivial, .inl rfl, False.elim⟩
  | reload sample state =>
      cases state with
      | loading load =>
          simp only [Tick.step, Option.map_eq_some_iff, Prod.mk.injEq] at stepped
          rcases stepped with ⟨⟨_, reloaded⟩, read, rfl, rfl⟩
          refine Reload.effect ?_ read
          exact sound
      | done result =>
          cases result <;> cases stepped
          · exact ⟨trivial, .inl rfl, False.elim⟩
          · exact ⟨trivial, .inl rfl, id⟩
  | returned => cases stepped

theorem Install.effect {state moved : Install} (sound : state.Sound pki call.certPath)
    (stepped : state.step pki call files tls outcome = some (next, later, moved)) :
    Effect pki tls later (moved.Sound pki call.certPath) state.Committed moved.Committed := by
  cases state with
  | validate | writeCert | writeKey =>
      simp only [Install.step] at stepped
      split at stepped <;> cases stepped <;> exact ⟨trivial, .inl rfl, False.elim⟩
  | renameCert | renameKey =>
      simp only [Install.step] at stepped
      split at stepped
      · simp only [Option.map_eq_some_iff, Prod.mk.injEq] at stepped
        rcases stepped with ⟨_, _, rfl, rfl, rfl⟩
        exact ⟨trivial, .inl rfl, False.elim⟩
      · cases stepped
        exact ⟨trivial, .inl rfl, False.elim⟩
  | reload state =>
      cases state with
      | loading load =>
          simp only [Install.step, Option.map_eq_some_iff, Prod.mk.injEq] at stepped
          rcases stepped with ⟨⟨_, reloaded⟩, read, rfl, rfl, rfl⟩
          refine Reload.effect ?_ read
          exact sound
      | done result =>
          cases result <;> cases stepped
          · exact ⟨trivial, .inl rfl, False.elim⟩
          · exact ⟨trivial, .inl rfl, id⟩
  | returned => cases stepped

theorem Task.effect {task moved : Task} (sound : task.Sound pki)
    (stepped : task.step pki files tls event = some (next, later, moved)) :
    Effect pki tls later (moved.Sound pki) task.Committed moved.Committed := by
  cases task with
  | reload certPath keyPath state =>
      simp only [Task.step, Option.map_eq_some_iff, Prod.mk.injEq] at stepped
      rcases stepped with ⟨⟨_, reloaded⟩, read, _, rfl, rfl⟩
      exact Reload.effect sound read
  | install call state =>
      simp only [Task.step, Option.map_eq_some_iff, Prod.mk.injEq] at stepped
      rcases stepped with ⟨⟨_, _, installed⟩, went, _, rfl, rfl⟩
      exact Install.effect sound went
  | renewal certPath keyPath state =>
      simp only [Task.step, Option.map_eq_some_iff, Prod.mk.injEq] at stepped
      rcases stepped with ⟨⟨_, _, renewed⟩, went, _, rfl, rfl⟩
      cases state with
      | issuing =>
          simp only [Renewal.step] at went
          split at went <;> cases went <;> exact ⟨trivial, .inl rfl, False.elim⟩
      | failed => cases went
      | installing call state =>
          simp only [Renewal.step, Option.map_eq_some_iff, Prod.mk.injEq] at went
          rcases went with ⟨⟨_, _, installed⟩, went, _, rfl, rfl⟩
          exact Install.effect sound went
  | tick certPath keyPath last state =>
      simp only [Task.step, Option.map_eq_some_iff, Prod.mk.injEq] at stepped
      rcases stepped with ⟨⟨_, ticked⟩, went, _, rfl, rfl⟩
      exact Tick.effect sound went

end Built

namespace Writers

variable {pki : Pki} {s next final : Writers} {action : Action} {actions : List Action}
  {seen : List ℕ}

structure Served (pki : Pki) (s : Writers) (seen : List ℕ) : Prop where
  validated : Validated pki s.tls.config
  sound : ∀ task ∈ s.tasks, task.Sound pki
  committed : ∀ index ∈ seen, ∃ task, s.tasks[index]? = some task ∧ task.Committed

theorem Served.step (served : Served pki s seen) (stepped : s.step pki action = some next) :
    Served pki next (seen ++ s.changes pki action) := by
  cases action with
  | change path file =>
      cases stepped
      simp only [changes, List.append_nil]
      exact ⟨served.validated, served.sound, served.committed⟩
  | call operation =>
      cases stepped
      simp only [changes, List.append_nil]
      refine ⟨served.validated, ?_, ?_⟩
      · intro task member
        rcases List.mem_append.mp member with before | new
        · exact served.sound task before
        · rw [List.mem_singleton.mp new]
          cases operation <;> trivial
      · intro index member
        rcases served.committed index member with ⟨task, found, committed⟩
        have within : index < s.tasks.length := (List.getElem?_eq_some_iff.mp found).1
        exact ⟨task, by rw [List.getElem?_append_left within, found], committed⟩
  | advance index event =>
      have moved := stepped
      simp only [Writers.step] at moved
      split at moved
      · rename_i task found
        simp only [Option.map_eq_some_iff] at moved
        rcases moved with ⟨⟨files, tls, after⟩, went, rfl⟩
        have within : index < s.tasks.length := (List.getElem?_eq_some_iff.mp found).1
        have effect := Task.effect (served.sound task (List.mem_of_getElem? found)) went
        refine ⟨?_, ?_, ?_⟩
        · rcases effect.swapped with same | ⟨validated, _⟩
          · rw [same]
            exact served.validated
          · exact validated
        · intro other member
          rcases List.mem_or_eq_of_mem_set member with before | rfl
          · exact served.sound other before
          · exact effect.sound
        · intro other member
          simp only [changes, stepped, List.mem_append] at member
          by_cases here : other = index
          · subst other
            refine ⟨after, List.getElem?_set_self within, ?_⟩
            rcases member with before | changed
            · rcases served.committed index before with ⟨_, same, committed⟩
              rw [found, Option.some.injEq] at same
              subst same
              exact effect.kept committed
            · split at changed
              · cases changed
              · rename_i swapped
                rcases effect.swapped with same | ⟨_, commits⟩
                · exact absurd same swapped
                · exact commits
          · simp only [List.getElem?_set_ne (Ne.symm here)]
            apply served.committed
            rcases member with before | changed
            · exact before
            · split at changed
              · cases changed
              · exact absurd (List.mem_singleton.mp changed) here
      · cases moved

/-- From the initial load on, what is served has been validated, and an operation that returns
`Err` has not changed it. -/
theorem served_of_created {certPath keyPath : Path} {certFile keyFile : FileRead} {tls : TlsState}
    {files : FileSystem}
    (created : TlsState.fromPemFiles pki certPath keyPath certFile keyFile = .ok tls)
    (ran : run (step pki) ⟨files, tls, []⟩ actions = some final) :
    Validated pki final.tls.acceptor ∧
      ∀ index task, final.tasks[index]? = some task → task.Failed →
        index ∉ trace (step pki) (changes pki) ⟨files, tls, []⟩ actions := by
  rcases bind_eq_ok.mp created with ⟨config, built, made⟩
  have start : Served pki ⟨files, tls, []⟩ [] := by
    refine ⟨?_, by simp, by simp⟩
    rw [← Except.ok.inj made]
    exact validated_of_built built
  have served : Served pki final ([] ++ trace (step pki) (changes pki) ⟨files, tls, []⟩ actions) :=
    trace_invariant (Served pki) (fun _ _ _ _ served stepped => served.step stepped) ran start
  refine ⟨served.validated, ?_⟩
  intro index task found failed changed
  rcases served.committed index changed with ⟨other, same, committed⟩
  rw [found, Option.some.injEq] at same
  subst other
  exact committed.not_failed failed

/-- A reload reads the new certificate with the old key, while a renewal installs a third pair. -/
def tornRun : List Action :=
  [.call (.reload renewal.certPath renewal.keyPath),
    .call (.renewal renewal.certPath renewal.keyPath),
    .change renewal.certPath { read := .contents [2], modified := some 1 }] ++
  (List.range 3).map (fun _ => .advance 0 ⟨.succeeds 2, .ok ([3], [3])⟩) ++
  (List.range 10).map (fun _ => .advance 1 ⟨.succeeds 2, .ok ([3], [3])⟩)

theorem served_of_created_torn :
    ∃ tls final, TlsState.fromPemFiles twins renewal.certPath renewal.keyPath (.contents [1])
        (.contents [1]) = .ok tls ∧
      run (step twins) ⟨Site.installed.files, tls, []⟩ tornRun = some final ∧
      Validated twins final.tls.acceptor ∧
      ∀ index task, final.tasks[index]? = some task → task.Failed →
        index ∉ trace (step twins) (changes twins) ⟨Site.installed.files, tls, []⟩ tornRun := by
  have ran : ∃ tls final, TlsState.fromPemFiles twins renewal.certPath renewal.keyPath
      (.contents [1]) (.contents [1]) = .ok tls ∧
      run (step twins) ⟨Site.installed.files, tls, []⟩ tornRun = some final :=
    ⟨_, _, rfl, rfl⟩
  rcases ran with ⟨tls, final, created, ran⟩
  exact ⟨tls, final, created, ran, served_of_created created ran⟩

end Writers

end RustAsgi.Tls
