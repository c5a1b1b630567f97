import RustAsgi.Machine
import RustAsgi.Os.Descriptors

/-!
# Listening sockets of another owner

Gunicorn has bound the sockets. `run` of its worker duplicates their descriptors and
passes the duplicates to `run_worker`, which owns them from its first statement on; the
accept tasks of `serve` own the listeners that `bind_inherited` makes of them. Other
threads of the process open and close descriptors of their own at any time, and Gunicorn
may close its sockets while the worker still serves.
-/

namespace RustAsgi.Process

open Machine Os

/-- `socket.family`; `name` is how Python displays a number that `_family_name` does not know. -/
inductive AddressFamily where
  | inet
  | inet6
  | unix
  | other (name : String)
  deriving DecidableEq, Repr

inductive ListenerKind where
  | tcp
  | unix
  deriving DecidableEq, Repr

/-- The arms of the match on the name in `bind_inherited`. -/
def ListenerKind.ofName (name : String) : Option ListenerKind :=
  if name ∈ ["tcp4", "tcp6", "tcp"] then some .tcp else if name = "unix" then some .unix else none

def AddressFamily.kind : AddressFamily → Option ListenerKind
  | .inet | .inet6 => some .tcp
  | .unix => some .unix
  | .other _ => none

def familyName : AddressFamily → Except String String
  | .inet => .ok "tcp4"
  | .inet6 => .ok "tcp6"
  | .unix => .ok "unix"
  | .other name => .error ("unsupported socket family " ++ name)

/-- One of `self.sockets`: what its descriptor is open on. -/
structure Wrapper (File : Type) where
  file : File
  family : AddressFamily
  deriving DecidableEq, Repr

/-- An entry of `listeners` in Python, and the `InheritedSocket` that owns its number. -/
structure InheritedSocket where
  family : String
  fd : ℕ
  description : String
  deriving DecidableEq, Repr

def InheritedSocket.kind (sock : InheritedSocket) : Option ListenerKind :=
  ListenerKind.ofName sock.family

inductive BoundListener where
  | tcp (fd : ℕ) (localAddr description : String)
  | unix (fd : ℕ) (path description : String)
  deriving DecidableEq, Repr

namespace BoundListener

def fd : BoundListener → ℕ
  | .tcp fd _ _ | .unix fd _ _ => fd

def kind : BoundListener → ListenerKind
  | .tcp _ _ _ => .tcp
  | .unix _ _ _ => .unix

end BoundListener

/-- What the system answers about a descriptor that becomes a listener. -/
structure Probe where
  nonblocking : Except String Unit
  localAddr : Except String String
  /-- The path that a Unix socket is bound to, where `getsockname` gives one. -/
  pathname : Option String
  registered : Except String Unit

/-- One round of the loop of `bind_inherited`. `debug` writes a string as `{:?}` does. -/
def bindInherited (debug : String → String) (sock : InheritedSocket) (probe : Probe) :
    Except String BoundListener :=
  match sock.kind with
  | some .tcp => do
      probe.nonblocking.mapError ("failed to set nonblocking: " ++ ·)
      let localAddr ← probe.localAddr.mapError ("getsockname failed: " ++ ·)
      probe.registered.mapError ("tokio TcpListener failed: " ++ ·)
      .ok (.tcp sock.fd localAddr sock.description)
  | some .unix => do
      probe.nonblocking.mapError ("failed to set nonblocking: " ++ ·)
      probe.registered.mapError ("tokio UnixListener failed: " ++ ·)
      .ok (.unix sock.fd (probe.pathname.getD "<unnamed unix socket>") sock.description)
  | none => .error ("unsupported socket family " ++ debug sock.family ++ " (want tcp4/tcp6/unix)")

inductive SocketStage where
  /-- The loop of `run` over `self.sockets`. -/
  | duplicating (listeners : List InheritedSocket)
  /-- `os.dup` has returned the number. -/
  | describing (listeners : List InheritedSocket) (family : String) (fd : ℕ)
  /-- `run_worker`, from its first statement to the runtime and the event loop. -/
  | preparing (inherited : List InheritedSocket)
  | binding (bound : List BoundListener) (rest : List InheritedSocket)
  /-- `serve_process_on` before `serve`. -/
  | starting (bound : List BoundListener)
  /-- The accept tasks, with the listeners of those that go on. -/
  | serving (acceptors : List (Option BoundListener))
  /-- `run_worker` returns an error: what it owns is being dropped. -/
  | dropping (owned : List (Option ℕ)) (error : String)
  | returned
  | failed (error : String)
  /-- `run` has raised before the call: nobody has these numbers any more. -/
  | raised (lost : List ℕ)
  deriving DecidableEq, Repr

namespace SocketStage

/-- The duplicates that are still open, each in the place of its wrapper. -/
def places : SocketStage → List (Option ℕ)
  | .duplicating listeners => listeners.map fun sock => some sock.fd
  | .describing listeners _ fd => (listeners.map fun sock => some sock.fd) ++ [some fd]
  | .preparing inherited => inherited.map fun sock => some sock.fd
  | .binding bound rest =>
      (bound.map fun listener => some listener.fd) ++ rest.map fun sock => some sock.fd
  | .starting bound => bound.map fun listener => some listener.fd
  | .serving acceptors => acceptors.map (Option.map BoundListener.fd)
  | .dropping owned _ => owned
  | .returned | .failed _ => []
  | .raised lost => lost.map some

/-- What they are taken for. -/
def kinds : SocketStage → List (Option ListenerKind)
  | .duplicating listeners => listeners.map InheritedSocket.kind
  | .describing listeners family _ =>
      listeners.map InheritedSocket.kind ++ [ListenerKind.ofName family]
  | .preparing inherited => inherited.map InheritedSocket.kind
  | .binding bound rest =>
      (bound.map fun listener => some listener.kind) ++ rest.map InheritedSocket.kind
  | .starting bound => bound.map fun listener => some listener.kind
  | .serving acceptors => acceptors.map (Option.map BoundListener.kind)
  | .dropping _ _ | .returned | .failed _ | .raised _ => []

/-- `run_worker` has been entered. -/
def handedOver : SocketStage → Bool
  | .duplicating _ | .describing _ _ _ | .raised _ => false
  | _ => true

def isOver : SocketStage → Bool
  | .returned | .failed _ | .raised _ => true
  | _ => false

end SocketStage

structure Sockets (File : Type) where
  table : Descriptors File
  /-- What the rest of the process has opened. -/
  theirs : List ℕ
  /-- `wrapper.sock.fileno()`, and nothing once Gunicorn has closed the socket. -/
  originals : List (Option ℕ)
  stage : SocketStage
  deriving DecidableEq, Repr

inductive SocketAction (File : Type) where
  | othersOpen (file : File)
  | othersClose (fd : ℕ)
  | closeOriginal (index : ℕ)
  /-- `_family_name` and `os.dup`, which the limit on descriptors may refuse. -/
  | dup (granted : Bool)
  /-- `str(wrapper)`, which may raise, and `getsockname`, whose `OSError` is caught. -/
  | describe (shown localAddr : Option String)
  /-- The settings are read and the arguments converted, or one of them raises. -/
  | call (accepted : Bool)
  | prepare (failure : Option String)
  | bind (probe : Probe)
  | start (failure : Option String)
  /-- An accept task ends, or an owner is dropped. -/
  | close (index : ℕ)
  | finish

def SocketAction.ofWorker {File : Type} : SocketAction File → Bool
  | .othersOpen _ | .othersClose _ | .closeOriginal _ => false
  | _ => true

namespace Sockets

variable {File : Type}

def init (table : Descriptors File) (originals : List (Option ℕ)) : Sockets File :=
  { table, theirs := table.opened, originals, stage := .duplicating [] }

def closed (s : Sockets File) (fd : ℕ) : Sockets File :=
  { s with table := s.table.close fd, theirs := s.theirs.filter fun each => decide (each ≠ fd) }

/-- A round of the loop of `run`, up to `os.dup`. -/
def dup (wrappers : List (Wrapper File)) (s : Sockets File) (granted : Bool)
    (listeners : List InheritedSocket) : Option (Sockets File) :=
  wrappers[listeners.length]?.map fun wrapper =>
    match familyName wrapper.family with
    | .error _ => { s with stage := .raised (listeners.map InheritedSocket.fd) }
    | .ok family =>
        match s.originals[listeners.length]?.join.bind s.table.get, granted with
        | some file, true =>
            { s with
              table := s.table.add file, stage := .describing listeners family s.table.lowest }
        | _, _ => { s with stage := .raised (listeners.map InheritedSocket.fd) }

/-- What the worker makes of its duplicates without a system call on its table. -/
def proceed (debug : String → String) (wrappers : List (Wrapper File)) :
    SocketStage → SocketAction File → Option SocketStage
  | .describing listeners family fd, .describe shown localAddr =>
      match shown with
      | none => some (.raised (listeners.map InheritedSocket.fd ++ [fd]))
      | some shown =>
          let description := shown ++ " local=" ++ localAddr.getD "None"
          some (.duplicating (listeners ++ [{ family, fd, description }]))
  | .duplicating listeners, .call accepted =>
      if wrappers[listeners.length]?.isSome then none
      else if accepted then some (.preparing listeners)
      else some (.raised (listeners.map InheritedSocket.fd))
  | .preparing inherited, .prepare failure =>
      match failure with
      | some error => some (.dropping (inherited.map fun sock => some sock.fd) error)
      | none => some (.binding [] inherited)
  | .binding bound (sock :: rest), .bind probe =>
      match bindInherited debug sock probe with
      | .ok listener => some (.binding (bound ++ [listener]) rest)
      | .error error => some (.dropping (SocketStage.binding bound (sock :: rest)).places error)
  | .binding bound [], .bind _ =>
      if bound = [] then some (.dropping [] "no listening sockets provided")
      else some (.starting bound)
  | .starting bound, .start failure =>
      match failure with
      | some error => some (.dropping (SocketStage.starting bound).places error)
      | none => some (.serving (bound.map some))
  | _, _ => none

/-- The stage without the duplicate of one wrapper, and the number to close. -/
def release : SocketStage → ℕ → Option (ℕ × SocketStage)
  | .serving acceptors, index =>
      acceptors[index]?.join.map fun listener =>
        (listener.fd, .serving (acceptors.set index none))
  | .dropping owned error, index =>
      owned[index]?.join.map fun fd => (fd, .dropping (owned.set index none) error)
  | _, _ => none

def finish : SocketStage → Option SocketStage
  | .serving acceptors => if acceptors.all Option.isNone then some .returned else none
  | .dropping owned error => if owned.all Option.isNone then some (.failed error) else none
  | _ => none

def step (debug : String → String) (wrappers : List (Wrapper File)) (s : Sockets File) :
    SocketAction File → Option (Sockets File)
  | .othersOpen file =>
      some { s with table := s.table.add file, theirs := s.table.lowest :: s.theirs }
  | .othersClose fd =>
      -- nobody closes what he has not opened himself
      if fd ∈ s.theirs ∧ some fd ∉ s.originals then some (s.closed fd) else none
  | .closeOriginal index =>
      s.originals[index]?.join.map fun fd =>
        { s.closed fd with originals := s.originals.set index none }
  | .dup granted =>
      match s.stage with
      | .duplicating listeners => s.dup wrappers granted listeners
      | _ => none
  | .close index =>
      (release s.stage index).map fun (fd, stage) =>
        { s with table := s.table.close fd, stage }
  | .finish => (finish s.stage).map fun stage => { s with stage }
  | action => (proceed debug wrappers s.stage action).map fun stage => { s with stage }

/-- The duplicates with the files of their wrappers. -/
def held (files : List File) (places : List (Option ℕ)) : List (ℕ × File) :=
  (places.zip files).filterMap fun (place, file) => place.map fun fd => (fd, file)

section Held

variable {files : List File} {places : List (Option ℕ)} {file : File} {fd index : ℕ}

theorem mem_held {pair : ℕ × File} : pair ∈ held files places ↔
    ∃ index : ℕ, places[index]? = some (some pair.1) ∧ files[index]? = some pair.2 := by
  rw [held, List.mem_filterMap]
  constructor
  · rintro ⟨⟨place, file⟩, member, same⟩
    rcases List.mem_iff_getElem?.mp member with ⟨index, found⟩
    rcases List.getElem?_zip_eq_some.mp found with ⟨placed, stored⟩
    rcases Option.map_eq_some_iff.mp same with ⟨fd, rfl, rfl⟩
    exact ⟨index, placed, stored⟩
  · rintro ⟨index, placed, stored⟩
    refine ⟨(some pair.1, pair.2), ?_, rfl⟩
    exact List.mem_of_getElem? (List.getElem?_zip_eq_some.mpr ⟨placed, stored⟩)

theorem held_concat (next : files[places.length]? = some file) :
    held files (places ++ [some fd]) = held files places ++ [(fd, file)] := by
  induction places generalizing files with
  | nil =>
      cases files with
      | nil => cases next
      | cons head rest =>
          cases next
          rfl
  | cons place places ih =>
      cases files with
      | nil => cases next
      | cons head rest =>
          have again := @ih rest next
          simp only [held, List.cons_append, List.zip_cons_cons, List.filterMap_cons] at again ⊢
          cases place with
          | none => exact again
          | some other => exact congrArg (List.cons (other, head)) again

theorem held_release (placed : places[index]? = some (some fd))
    (stored : files[index]? = some file) :
    ∃ front back, held files places = front ++ (fd, file) :: back ∧
      held files (places.set index none) = front ++ back := by
  induction places generalizing files index with
  | nil => cases placed
  | cons place places ih =>
      cases files with
      | nil => cases stored
      | cons head rest =>
          cases index with
          | zero =>
              cases placed
              cases stored
              exact ⟨[], held rest places, rfl, rfl⟩
          | succ index =>
              rcases @ih rest index placed stored with ⟨front, back, before, after⟩
              cases place with
              | none => exact ⟨front, back, before, after⟩
              | some other =>
                  exact ⟨(other, head) :: front, back, congrArg (List.cons (other, head)) before,
                    congrArg (List.cons (other, head)) after⟩

theorem held_eq_nil (empty : ∀ place ∈ places, place = none) : held files places = [] := by
  rw [List.eq_nil_iff_forall_not_mem]
  intro pair member
  rcases mem_held.mp member with ⟨index, placed, _⟩
  cases empty _ (List.mem_of_getElem? placed)

end Held

/-- The stage goes on to `next`, with these duplicates left, each taken for what it was. -/
structure Leads (stage next : SocketStage) (places : List (Option ℕ)) : Prop where
  going : stage.isOver = false
  handed : stage.handedOver = true → next.handedOver = true
  places : next.places = places
  kinds : ∀ (index : ℕ) (kind : ListenerKind), next.kinds[index]? = some (some kind) →
    stage.kinds[index]? = some (some kind)

variable {debug : String → String} {wrappers : List (Wrapper File)} {stage after : SocketStage}

theorem bindInherited_eq_ok {sock : InheritedSocket} {probe : Probe} {listener : BoundListener}
    (bound : bindInherited debug sock probe = .ok listener) :
    listener.fd = sock.fd ∧ sock.kind = some listener.kind := by
  rw [bindInherited] at bound
  split at bound
  · rename_i kind
    rcases probe with ⟨_ | _, _ | _, _, _ | _⟩ <;> cases bound
    exact ⟨rfl, kind⟩
  · rename_i kind
    rcases probe with ⟨_ | _, _, _, _ | _⟩ <;> cases bound
    exact ⟨rfl, kind⟩
  · cases bound

theorem proceed_leads {action : SocketAction File}
    (proceeded : proceed debug wrappers stage action = some after) :
    Leads stage after stage.places := by
  simp only [proceed] at proceeded
  split at proceeded
  · split at proceeded
    · cases proceeded
      refine ⟨rfl, nofun, ?_, nofun⟩
      simp [SocketStage.places]
    · cases proceeded
      refine ⟨rfl, nofun, ?_, ?_⟩
      · simp [SocketStage.places]
      · intro index kind found
        simpa [SocketStage.kinds, InheritedSocket.kind] using found
  · split at proceeded
    · cases proceeded
    · split at proceeded
      · cases proceeded
        exact ⟨rfl, nofun, rfl, fun _ _ found => found⟩
      · cases proceeded
        refine ⟨rfl, nofun, ?_, nofun⟩
        simp [SocketStage.places]
  · split at proceeded
    · cases proceeded
      exact ⟨rfl, fun _ => rfl, rfl, nofun⟩
    · cases proceeded
      exact ⟨rfl, fun _ => rfl, rfl, fun _ _ found => found⟩
  · split at proceeded
    · rename_i bound
      rcases bindInherited_eq_ok bound with ⟨number, kind⟩
      cases proceeded
      refine ⟨rfl, fun _ => rfl, ?_, ?_⟩
      · simp [SocketStage.places, number]
      · intro index same found
        simpa [SocketStage.kinds, kind] using found
    · cases proceeded
      exact ⟨rfl, fun _ => rfl, rfl, nofun⟩
  · split at proceeded
    · rename_i empty
      cases proceeded
      exact ⟨rfl, fun _ => rfl, by simp [SocketStage.places, empty], nofun⟩
    · cases proceeded
      refine ⟨rfl, fun _ => rfl, by simp [SocketStage.places], ?_⟩
      intro index kind found
      simpa [SocketStage.kinds] using found
  · split at proceeded
    · cases proceeded
      exact ⟨rfl, fun _ => rfl, rfl, nofun⟩
    · cases proceeded
      refine ⟨rfl, fun _ => rfl, by simp [SocketStage.places], ?_⟩
      intro index kind found
      simpa [SocketStage.kinds] using found
  · cases proceeded

theorem release_leads {index fd : ℕ} (released : release stage index = some (fd, after)) :
    stage.places[index]? = some (some fd) ∧ Leads stage after (stage.places.set index none) := by
  simp only [release] at released
  split at released
  · rename_i acceptors place
    simp only [Option.map_eq_some_iff, Option.join_eq_some_iff, Prod.mk.injEq] at released
    rcases released with ⟨listener, placed, rfl, rfl⟩
    refine ⟨by simp [SocketStage.places, placed], rfl, fun _ => rfl, ?_, ?_⟩
    · simp [SocketStage.places, List.map_set]
    · intro each kind found
      simp only [SocketStage.kinds, List.map_set, List.getElem?_set] at found
      split at found
      · split at found <;> cases found
      · exact found
  · simp only [Option.map_eq_some_iff, Option.join_eq_some_iff, Prod.mk.injEq] at released
    rcases released with ⟨number, placed, rfl, rfl⟩
    exact ⟨placed, rfl, fun _ => rfl, rfl, nofun⟩
  · cases released

theorem finish_leads (finished : finish stage = some after) :
    (∀ place ∈ stage.places, place = none) ∧ Leads stage after [] := by
  simp only [finish] at finished
  split at finished
  · simp only [Option.ite_none_right_eq_some, List.all_eq_true, Option.isNone_iff_eq_none,
      Option.some.injEq] at finished
    rcases finished with ⟨empty, rfl⟩
    refine ⟨?_, rfl, fun _ => rfl, rfl, nofun⟩
    intro place member
    rcases List.mem_map.mp member with ⟨acceptor, among, rfl⟩
    rw [empty acceptor among]
    rfl
  · simp only [Option.ite_none_right_eq_some, List.all_eq_true, Option.isNone_iff_eq_none,
      Option.some.injEq] at finished
    rcases finished with ⟨empty, rfl⟩
    exact ⟨empty, rfl, fun _ => rfl, rfl, nofun⟩
  · cases finished

variable {s next : Sockets File} {action : SocketAction File}

/-- What a step can do, by its effect on the table. -/
inductive Step (wrappers : List (Wrapper File)) (s : Sockets File) :
    SocketAction File → Sockets File → Prop where
  | theyOpen (file : File) : Step wrappers s (.othersOpen file)
      { s with table := s.table.add file, theirs := s.table.lowest :: s.theirs }
  | theyClose {fd : ℕ} (known : fd ∈ s.theirs) (unused : some fd ∉ s.originals) :
      Step wrappers s (.othersClose fd) (s.closed fd)
  | closeOriginal {index fd : ℕ} (own : s.originals[index]? = some (some fd)) :
      Step wrappers s (.closeOriginal index)
        { s.closed fd with originals := s.originals.set index none }
  | dup {granted : Bool} {listeners : List InheritedSocket} {wrapper : Wrapper File}
      {family : String} {fd : ℕ} {file : File} (stage : s.stage = .duplicating listeners)
      (nth : wrappers[listeners.length]? = some wrapper)
      (named : familyName wrapper.family = .ok family)
      (original : s.originals[listeners.length]? = some (some fd))
      (found : s.table.get fd = some file) :
      Step wrappers s (.dup granted) { s with
        table := s.table.add file, stage := .describing listeners family s.table.lowest }
  | proceed {action : SocketAction File} {stage : SocketStage}
      (leads : Leads s.stage stage s.stage.places) : Step wrappers s action { s with stage }
  | close {index fd : ℕ} {stage : SocketStage} (placed : s.stage.places[index]? = some (some fd))
      (leads : Leads s.stage stage (s.stage.places.set index none)) :
      Step wrappers s (.close index) { s with table := s.table.close fd, stage }
  | finish {stage : SocketStage} (empty : ∀ place ∈ s.stage.places, place = none)
      (leads : Leads s.stage stage []) : Step wrappers s .finish { s with stage }

theorem dup_cases {granted : Bool} {listeners : List InheritedSocket}
    (stage : s.stage = .duplicating listeners)
    (duplicated : s.dup wrappers granted listeners = some next) :
    Step wrappers s (.dup granted) next := by
  have raises : Leads s.stage (.raised (listeners.map InheritedSocket.fd)) s.stage.places := by
    rw [stage]
    exact ⟨rfl, nofun, by simp [SocketStage.places], nofun⟩
  rw [dup, Option.map_eq_some_iff] at duplicated
  rcases duplicated with ⟨wrapper, nth, rfl⟩
  split
  · exact .proceed raises
  · rename_i family named
    split
    · rename_i file found
      simp only [Option.bind_eq_some_iff, Option.join_eq_some_iff] at found
      rcases found with ⟨fd, original, found⟩
      exact .dup stage nth named original found
    · exact .proceed raises

theorem step_cases (stepped : step debug wrappers s action = some next) :
    Step wrappers s action next := by
  cases action with
  | othersOpen file => exact Option.some.inj stepped ▸ .theyOpen file
  | othersClose fd =>
      simp only [step, Option.ite_none_right_eq_some, Option.some.injEq] at stepped
      rcases stepped with ⟨⟨known, unused⟩, rfl⟩
      exact .theyClose known unused
  | closeOriginal index =>
      simp only [step, Option.map_eq_some_iff, Option.join_eq_some_iff] at stepped
      rcases stepped with ⟨fd, own, rfl⟩
      exact .closeOriginal own
  | dup granted =>
      simp only [step] at stepped
      split at stepped
      · rename_i listeners stage
        exact dup_cases stage stepped
      · cases stepped
  | close index =>
      simp only [step, Option.map_eq_some_iff] at stepped
      rcases stepped with ⟨⟨fd, stage⟩, released, rfl⟩
      rcases release_leads released with ⟨placed, leads⟩
      exact .close placed leads
  | finish =>
      simp only [step, Option.map_eq_some_iff] at stepped
      rcases stepped with ⟨stage, finished, rfl⟩
      rcases finish_leads finished with ⟨empty, leads⟩
      exact .finish empty leads
  | describe | call | prepare | bind | start =>
      simp only [step, Option.map_eq_some_iff] at stepped
      rcases stepped with ⟨stage, proceeded, rfl⟩
      exact .proceed (proceed_leads proceeded)

/-- The duplicates are the worker's alone, each on the socket of its wrapper, and the originals
are untouched. -/
structure Sound (wrappers : List (Wrapper File)) (s : Sockets File) : Prop where
  apart : s.table.Apart s.theirs (held (wrappers.map Wrapper.file) s.stage.places)
  bounded : s.stage.places.length ≤ wrappers.length
  original : ∀ (index fd : ℕ), s.originals[index]? = some (some fd) →
    fd ∈ s.theirs ∧ s.table.get fd = wrappers[index]?.map Wrapper.file
  single : ∀ (index other fd : ℕ), s.originals[index]? = some (some fd) →
    s.originals[other]? = some (some fd) → index = other
  kinds : ∀ (index : ℕ) (kind : ListenerKind), s.stage.kinds[index]? = some (some kind) →
    ∃ wrapper, wrappers[index]? = some wrapper ∧ wrapper.family.kind = some kind

/-- Gunicorn's sockets are open, each under a number of its own. -/
structure Wired (wrappers : List (Wrapper File)) (table : Descriptors File)
    (originals : List (Option ℕ)) : Prop where
  original : ∀ (index fd : ℕ), originals[index]? = some (some fd) →
    ∃ wrapper, wrappers[index]? = some wrapper ∧ table.get fd = some wrapper.file
  single : ∀ (index other fd : ℕ), originals[index]? = some (some fd) →
    originals[other]? = some (some fd) → index = other

theorem sound_init {table : Descriptors File} {originals : List (Option ℕ)}
    (wired : Wired wrappers table originals) : (init table originals).Sound wrappers where
  apart := table.apart_opened
  bounded := Nat.zero_le _
  original := by
    intro index fd own
    rcases wired.original index fd own with ⟨wrapper, nth, found⟩
    refine ⟨Descriptors.mem_opened.mpr ?_, ?_⟩
    · rw [found]
      exact nofun
    · rw [nth]
      exact found
  single := wired.single
  kinds := nofun

theorem ofName_familyName {family : AddressFamily} {name : String}
    (named : familyName family = .ok name) : ListenerKind.ofName name = family.kind := by
  cases family <;> cases named <;> decide

/-- Nothing but the stage changes, and only in what it is called. -/
theorem Sound.proceed (sound : s.Sound wrappers) {stage : SocketStage}
    (leads : Leads s.stage stage s.stage.places) : ({ s with stage } : Sockets File).Sound wrappers
    where
  apart := leads.places ▸ sound.apart
  bounded := leads.places ▸ sound.bounded
  original := sound.original
  single := sound.single
  kinds := fun index kind found => sound.kinds index kind (leads.kinds index kind found)

theorem Sound.closed (sound : s.Sound wrappers) {fd : ℕ} (known : fd ∈ s.theirs)
    {originals : List (Option ℕ)} (unused : some fd ∉ originals)
    (fewer : ∀ (index each : ℕ), originals[index]? = some (some each) →
      s.originals[index]? = some (some each)) :
    ({ s.closed fd with originals } : Sockets File).Sound wrappers where
  apart := sound.apart.close_theirs known
  bounded := sound.bounded
  original := by
    intro index each own
    rcases sound.original index each (fewer index each own) with ⟨member, found⟩
    have different : each ≠ fd := by
      rintro rfl
      exact unused (List.mem_of_getElem? own)
    refine ⟨List.mem_filter.mpr ⟨member, by simpa using different⟩, ?_⟩
    exact (Descriptors.get_close_ne different).trans found
  single := fun index other each own again =>
    sound.single index other each (fewer index each own) (fewer other each again)
  kinds := sound.kinds

theorem Sound.dup (sound : s.Sound wrappers) {listeners : List InheritedSocket}
    {wrapper : Wrapper File} {family : String} {fd : ℕ} {file : File}
    (stage : s.stage = .duplicating listeners)
    (nth : wrappers[listeners.length]? = some wrapper)
    (named : familyName wrapper.family = .ok family)
    (original : s.originals[listeners.length]? = some (some fd))
    (found : s.table.get fd = some file) :
    ({ s with table := s.table.add file
              stage := .describing listeners family s.table.lowest } : Sockets File).Sound
      wrappers := by
  have stored : (wrappers.map Wrapper.file)[s.stage.places.length]? = some file := by
    rw [stage]
    simp only [SocketStage.places, List.length_map, List.getElem?_map]
    rw [← (sound.original _ _ original).2, found]
  refine ⟨?_, ?_, ?_, sound.single, ?_⟩
  · have apart := sound.apart.add file
    rw [← held_concat stored, stage] at apart
    exact apart
  · have inside := (List.getElem?_eq_some_iff.mp nth).1
    simpa [SocketStage.places, Nat.succ_le_iff] using inside
  · intro index each own
    rcases sound.original index each own with ⟨member, kept⟩
    have different : each ≠ s.table.lowest := fun same => sound.apart.fresh.1 (same ▸ member)
    exact ⟨member, (Descriptors.get_add_ne file different).trans kept⟩
  · intro index kind among
    have kinds := sound.kinds index kind
    rw [stage] at kinds
    simp only [SocketStage.kinds, List.getElem?_append, List.getElem?_singleton] at among kinds
    split at among
    · exact kinds among
    · split at among
      · rename_i beyond last
        rw [List.length_map] at beyond last
        have same : index = listeners.length := by omega
        subst same
        refine ⟨wrapper, nth, ?_⟩
        rw [← ofName_familyName named]
        exact Option.some.inj among
      · cases among

theorem Sound.close (sound : s.Sound wrappers) {index fd : ℕ} {stage : SocketStage}
    (placed : s.stage.places[index]? = some (some fd))
    (leads : Leads s.stage stage (s.stage.places.set index none)) :
    ({ s with table := s.table.close fd, stage } : Sockets File).Sound wrappers := by
  have inside := (List.getElem?_eq_some_iff.mp placed).1
  have within : index < wrappers.length := Nat.lt_of_lt_of_le inside sound.bounded
  have stored : (wrappers.map Wrapper.file)[index]? = some wrappers[index].file := by
    rw [List.getElem?_map, List.getElem?_eq_getElem within, Option.map_some]
  rcases held_release placed stored with ⟨front, back, before, after⟩
  have apart := sound.apart
  rw [before] at apart
  refine ⟨?_, ?_, ?_, sound.single, ?_⟩
  · rw [leads.places, after]
    exact apart.close
  · rw [leads.places, List.length_set]
    exact sound.bounded
  · intro other each own
    rcases sound.original other each own with ⟨member, kept⟩
    have different : each ≠ fd := by
      rintro rfl
      exact apart.away _ (List.mem_append_right _ List.mem_cons_self) member
    exact ⟨member, (Descriptors.get_close_ne different).trans kept⟩
  · exact fun index kind found => sound.kinds index kind (leads.kinds index kind found)

theorem Sound.finish (sound : s.Sound wrappers) {stage : SocketStage}
    (empty : ∀ place ∈ s.stage.places, place = none) (leads : Leads s.stage stage []) :
    ({ s with stage } : Sockets File).Sound wrappers := by
  refine ⟨?_, ?_, sound.original, sound.single, ?_⟩
  · have apart := sound.apart
    rw [held_eq_nil empty] at apart
    rw [leads.places]
    exact apart
  · rw [leads.places]
    exact Nat.zero_le _
  · exact fun index kind found => sound.kinds index kind (leads.kinds index kind found)

theorem Sound.step (sound : s.Sound wrappers)
    (stepped : step debug wrappers s action = some next) : next.Sound wrappers := by
  cases step_cases stepped with
  | theyOpen file =>
      refine ⟨sound.apart.add_theirs file, sound.bounded, ?_, sound.single, sound.kinds⟩
      intro index each own
      rcases sound.original index each own with ⟨member, kept⟩
      have different : each ≠ s.table.lowest := fun same => sound.apart.fresh.1 (same ▸ member)
      exact ⟨List.mem_cons_of_mem _ member, (Descriptors.get_add_ne file different).trans kept⟩
  | theyClose known unused => exact sound.closed known unused fun _ _ own => own
  | @closeOriginal index fd own =>
      have fewer (other each : ℕ) (still : (s.originals.set index none)[other]? =
          some (some each)) : other ≠ index ∧ s.originals[other]? = some (some each) := by
        rw [List.getElem?_set] at still
        split at still
        · split at still <;> cases still
        · rename_i different
          exact ⟨Ne.symm different, still⟩
      apply sound.closed (sound.original index fd own).1 _ fun other each still =>
        (fewer other each still).2
      intro member
      rcases List.mem_iff_getElem?.mp member with ⟨other, still⟩
      rcases fewer other fd still with ⟨different, again⟩
      exact different (sound.single other index fd again own)
  | dup stage nth named original found => exact sound.dup stage nth named original found
  | proceed leads => exact sound.proceed leads
  | close placed leads => exact sound.close placed leads
  | finish empty leads => exact sound.finish empty leads

theorem sound_of_run {table : Descriptors File} {originals : List (Option ℕ)}
    {actions : List (SocketAction File)} (wired : Wired wrappers table originals)
    (reached : run (step debug wrappers) (init table originals) actions = some s) :
    s.Sound wrappers :=
  run_invariant_of_step (Sound wrappers) (fun _ _ _ sound stepped => sound.step stepped) reached
    (sound_init wired)

/-- A call of `run_worker` is not taken back. -/
theorem handedOver_step (handed : s.stage.handedOver = true)
    (stepped : step debug wrappers s action = some next) : next.stage.handedOver = true := by
  cases step_cases stepped with
  | theyOpen | theyClose | closeOriginal => exact handed
  | dup stage =>
      rw [stage] at handed
      cases handed
  | proceed leads | close _ leads | finish _ leads => exact leads.handed handed

theorem raised_step {lost : List ℕ} (raised : s.stage = .raised lost)
    (stepped : step debug wrappers s action = some next) : next.stage = .raised lost := by
  have ended : s.stage.isOver = true := by rw [raised]; rfl
  cases step_cases stepped with
  | theyOpen | theyClose | closeOriginal => exact raised
  | dup stage =>
      rw [raised] at stage
      cases stage
  | proceed leads | close _ leads | finish _ leads =>
      have going := leads.going
      rw [ended] at going
      cases going

/-- The ownership rules. -/
structure Custody (wrappers : List (Wrapper File)) (s : Sockets File) : Prop where
  /-- A duplicate is the worker's alone and stands for the socket of its wrapper. -/
  own : ∀ (index fd : ℕ), s.stage.places[index]? = some (some fd) →
    fd ∉ s.theirs ∧ ∃ wrapper, wrappers[index]? = some wrapper ∧ s.table.get fd = some wrapper.file
  single : ∀ (index other fd : ℕ), s.stage.places[index]? = some (some fd) →
    s.stage.places[other]? = some (some fd) → index = other
  /-- Gunicorn still has every socket that it has not closed itself. -/
  original : ∀ (index fd : ℕ), s.originals[index]? = some (some fd) →
    s.table.get fd = wrappers[index]?.map Wrapper.file
  kinds : ∀ (acceptors : List (Option BoundListener)) (index : ℕ) (listener : BoundListener),
    s.stage = .serving acceptors → acceptors[index]? = some (some listener) →
    ∃ wrapper, wrappers[index]? = some wrapper ∧ wrapper.family.kind = some listener.kind
  /-- Nothing is open but what others have opened, and what they cannot know of. -/
  leaks : s.stage.isOver = true →
    ((∀ fd, s.table.get fd ≠ none → fd ∈ s.theirs) ↔ s.stage.places = [])

theorem places_of_over (ended : s.stage.isOver = true) :
    ∃ lost : List ℕ, s.stage.places = lost.map some := by
  cases stage : s.stage with
  | raised lost => exact ⟨lost, rfl⟩
  | returned | failed => exact ⟨[], rfl⟩
  | _ =>
      rw [stage] at ended
      cases ended

theorem Sound.among (sound : s.Sound wrappers) {index fd : ℕ}
    (placed : s.stage.places[index]? = some (some fd)) :
    ∃ wrapper, wrappers[index]? = some wrapper ∧
      (fd, wrapper.file) ∈ held (wrappers.map Wrapper.file) s.stage.places := by
  have within := Nat.lt_of_lt_of_le (List.getElem?_eq_some_iff.mp placed).1 sound.bounded
  have nth := List.getElem?_eq_getElem within
  refine ⟨_, nth, mem_held.mpr ⟨index, placed, ?_⟩⟩
  rw [List.getElem?_map, nth, Option.map_some]

theorem Sound.custody (sound : s.Sound wrappers) : s.Custody wrappers where
  own := by
    intro index fd placed
    rcases sound.among placed with ⟨wrapper, nth, among⟩
    exact ⟨sound.apart.away _ among, wrapper, nth, sound.apart.opened _ among⟩
  single := by
    intro index other fd placed again
    rcases sound.among placed with ⟨wrapper, nth, _⟩
    rcases sound.among again with ⟨wrapper', nth', _⟩
    have stored : (wrappers.map Wrapper.file)[index]? = some wrapper.file := by
      rw [List.getElem?_map, nth, Option.map_some]
    rcases held_release placed stored with ⟨front, back, before, after⟩
    by_contra different
    have still : (fd, wrapper'.file) ∈ front ++ back := by
      rw [← after]
      refine mem_held.mpr ⟨other, ?_, ?_⟩
      · rw [List.getElem?_set_ne different]
        exact again
      · rw [List.getElem?_map, nth', Option.map_some]
    have distinct := sound.apart.distinct
    rw [before, List.map_append, List.map_cons, List.nodup_middle, List.nodup_cons,
      ← List.map_append] at distinct
    exact distinct.1 (List.mem_map.mpr ⟨_, still, rfl⟩)
  original := fun index fd own => (sound.original index fd own).2
  kinds := by
    intro acceptors index listener stage goesOn
    apply sound.kinds
    rw [stage]
    simp [SocketStage.kinds, goesOn]
  leaks := by
    intro ended
    constructor
    · intro known
      rcases places_of_over ended with ⟨lost, places⟩
      cases lost with
      | nil => exact places
      | cons fd rest =>
          have placed : s.stage.places[0]? = some (some fd) := by
            rw [places]
            rfl
          rcases sound.among placed with ⟨wrapper, _, among⟩
          refine absurd (known fd ?_) (sound.apart.away _ among)
          rw [sound.apart.opened _ among]
          exact nofun
    · intro empty fd found
      refine (sound.apart.accounted fd found).resolve_right ?_
      rw [empty]
      rintro ⟨pair, member, _⟩
      cases member

/-- The worker leaves alone what is not its own. -/
theorem frame_step (sound : s.Sound wrappers) (own : action.ofWorker = true)
    (stepped : step debug wrappers s action = some next) :
    next.theirs = s.theirs ∧ ∀ fd ∈ s.theirs, next.table.get fd = s.table.get fd := by
  cases step_cases stepped with
  | theyOpen | theyClose | closeOriginal => cases own
  | dup =>
      refine ⟨rfl, fun fd member => Descriptors.get_add_ne _ ?_⟩
      rintro rfl
      exact sound.apart.fresh.1 member
  | proceed | finish => exact ⟨rfl, fun _ _ => rfl⟩
  | close placed =>
      rcases sound.among placed with ⟨wrapper, _, among⟩
      refine ⟨rfl, fun fd member => Descriptors.get_close_ne ?_⟩
      rintro rfl
      exact sound.apart.away _ among member

/-- The ownership rules of the listening sockets, in every run. Once `run_worker` has been entered,
nothing leaks; a duplicate leaks exactly where `run` raises between `os.dup` and the call. -/
theorem descriptors_kept {table : Descriptors File} {originals : List (Option ℕ)}
    {actions : List (SocketAction File)} (wired : Wired wrappers table originals)
    (reached : run (step debug wrappers) (init table originals) actions = some s) :
    s.Custody wrappers ∧
      (∀ action next, action.ofWorker = true → step debug wrappers s action = some next →
        next.theirs = s.theirs ∧ ∀ fd ∈ s.theirs, next.table.get fd = s.table.get fd) ∧
      (s.stage.handedOver = true → ∀ later final,
        run (step debug wrappers) s later = some final → final.stage.isOver = true →
          ∀ fd, final.table.get fd ≠ none → fd ∈ final.theirs) ∧
      ∀ lost, s.stage = .raised lost → ∀ later final,
        run (step debug wrappers) s later = some final →
          ∀ index fd : ℕ, lost[index]? = some fd →
            ∃ wrapper, wrappers[index]? = some wrapper ∧
              final.table.get fd = some wrapper.file := by
  have sound := sound_of_run wired reached
  have still {later : List (SocketAction File)} {final : Sockets File}
      (onward : run (step debug wrappers) s later = some final) : final.Sound wrappers :=
    run_invariant_of_step (Sound wrappers) (fun _ _ _ sound stepped => sound.step stepped) onward
      sound
  refine ⟨sound.custody, fun action next own stepped => frame_step sound own stepped, ?_, ?_⟩
  · intro handed later final onward ended
    have kept : final.stage.handedOver = true :=
      run_invariant_of_step (fun current => current.stage.handedOver = true)
        (fun _ _ _ handed stepped => handedOver_step handed stepped) onward handed
    apply ((still onward).custody.leaks ended).mpr
    cases stage : final.stage with
    | returned | failed => rfl
    | raised =>
        rw [stage] at kept
        cases kept
    | _ =>
        rw [stage] at ended
        cases ended
  · intro lost raised later final onward index fd entry
    have kept : final.stage = .raised lost :=
      run_invariant_of_step (fun current => current.stage = .raised lost)
        (fun _ _ _ raised stepped => raised_step raised stepped) onward raised
    refine ((still onward).custody.own index fd ?_).2
    rw [kept]
    simp [SocketStage.places, entry]

/-- Gunicorn's socket 7, open under the number 1. -/
def oneWrapper : List (Wrapper ℕ) :=
  [{ file := 7, family := .inet }]

def oneTable : Descriptors ℕ :=
  { slots := [some 0, some 7] }

/-- Gunicorn closes its socket, whose number goes to the file 9, before the worker listens. -/
def reuseRun : List (SocketAction ℕ) :=
  let probe : Probe :=
    { nonblocking := .ok (), localAddr := .ok "127.0.0.1:8000", pathname := none,
      registered := .ok () }
  [.dup true, .describe (some "http://127.0.0.1:8000") none, .closeOriginal 0, .othersOpen 9,
    .call true, .prepare none, .bind probe, .bind probe, .start none]

theorem wired_oneTable : Wired oneWrapper oneTable [some 1] where
  original := by
    intro index fd own
    match index with
    | 0 =>
        cases own
        exact ⟨_, rfl, rfl⟩
    | _ + 1 => cases own
  single := by
    intro index other fd own again
    match index, other with
    | 0, 0 => rfl
    | 0, _ + 1 => cases again
    | _ + 1, _ => cases own

theorem descriptors_kept_reused :
    ∃ s, run (step id oneWrapper) (init oneTable [some 1]) reuseRun = some s ∧
      s.table.get 1 = some 9 ∧ s.table.get 2 = some 7 ∧
      ∀ later final, run (step id oneWrapper) s later = some final →
        final.stage = .returned → ∀ fd, final.table.get fd ≠ none → fd ∈ final.theirs := by
  have ran : ∃ s, run (step id oneWrapper) (init oneTable [some 1]) reuseRun = some s ∧
      s.table.get 1 = some 9 ∧ s.stage.places = [some 2] ∧ s.stage.handedOver = true :=
    exists_of_run_any (by decide)
  rcases ran with ⟨s, ran, reused, places, handed⟩
  rcases descriptors_kept wired_oneTable ran with ⟨custody, _, kept, _⟩
  rcases custody.own 0 2 (by rw [places]; rfl) with ⟨_, wrapper, nth, found⟩
  cases nth
  refine ⟨s, ran, reused, found, fun later final onward returned => ?_⟩
  exact kept handed later final onward (by rw [returned]; rfl)

end Sockets

end RustAsgi.Process
