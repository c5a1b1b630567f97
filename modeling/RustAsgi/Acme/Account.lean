import RustAsgi.Encoding.Quoted
import RustAsgi.Fallible
import RustAsgi.Http.Message
import RustAsgi.Machine

/-!
# The ACME account

`load_or_create_account` of `acme/account.rs`. An account is created at a directory,
and saved with its credentials; whoever comes later restores it from the file. The
file names the directory of the account, and the restoring call does not look.

Any number of calls share the storage directory, and they may overlap: a step of a
call is one operation on a file or one exchange with a directory. A call that is
killed takes no more steps.
-/

namespace RustAsgi.Acme.Account

open Machine Fallible

/-- What `account.json` holds. -/
structure AccountData where
  /-- JSON serialized `AccountCredentials`. -/
  credentials : Text
  email : Text
  directory : Text
  deriving DecidableEq, Repr

/-- `instant_acme::NewAccount`. -/
structure NewAccount where
  contact : List Text
  termsOfServiceAgreed : Bool
  onlyReturnExisting : Bool
  deriving DecidableEq, Repr

/-- The functions of `serde_json` and `instant_acme`. A `Reply` is what an exchange with a
directory depends on besides the arguments. -/
structure Crates (Credentials Account Reply : Type) where
  accountDataFromStr : Text → Except String AccountData
  toStringPretty : AccountData → Text
  credentialsFromStr : Text → Except String Credentials
  credentialsToString : Credentials → Except String Text
  create : NewAccount → Text → Reply → Except String (Account × Credentials)
  fromCredentials : Credentials → Reply → Except String Account
  /-- The directory that an account is registered at. -/
  registeredAt : Account → Text
  /-- The directory that credentials carry. -/
  createdAt : Credentials → Text

/-- The file as `fs::read_to_string` finds it. -/
inductive Contents where
  | text (text : Text)
  | notUtf8
  deriving DecidableEq, Repr

/-- `account.json` and `account.json.tmp` in the storage directory. -/
structure Storage where
  account : Option Contents
  tmp : Option Contents
  deriving DecidableEq, Repr

/-- What a failed `fs::write` leaves: the file as it was, a part of the text, or a part that ends
within a character. -/
inductive Left where
  | untouched
  | cut (length : ℕ)
  | torn
  deriving DecidableEq, Repr

def Left.tmp (left : Left) (json : Text) (before : Option Contents) : Option Contents :=
  match left with
  | .untouched => before
  | .cut length => some (.text (json.take length))
  | .torn => some .notUtf8

/-- What the next await or filesystem call of a call comes to. -/
inductive Event (Reply : Type) where
  | done
  | failed (error : String) (left : Left)
  | reply (reply : Reply)
  deriving DecidableEq, Repr

/-- The arguments of `load_or_create_account`. -/
structure Request where
  email : Text
  directoryUrl : Text
  deriving DecidableEq, Repr

/-- Where a call stands. -/
inductive Stage (Credentials Account : Type) where
  | looking
  | reading
  | restoring (data : AccountData) (credentials : Credentials)
  | creating
  | makingDir (account : Account) (credentials : Credentials)
  | writing (account : Account) (json : Text)
  | moving (account : Account)
  | returned (result : Except String Account)
  deriving DecidableEq

/-- `fs::read_to_string`. -/
def readToString : Option Contents → Except String Text
  | none => .error "No such file or directory (os error 2)"
  | some .notUtf8 => .error "stream did not contain valid UTF-8"
  | some (.text text) => .ok text

section Calls

variable {Credentials Account Reply : Type} (crates : Crates Credentials Account Reply)

/-- The account file, parsed with the credentials in it. -/
def Storage.load (storage : Storage) : Except String (AccountData × Credentials) := do
  let data ← (readToString storage.account).mapError ("failed to read account file: " ++ ·)
  let accData ← (crates.accountDataFromStr data).mapError ("failed to parse account file: " ++ ·)
  let creds ←
    (crates.credentialsFromStr accData.credentials).mapError ("failed to parse credentials: " ++ ·)
  .ok (accData, creds)

namespace Request

def newAccount (request : Request) : NewAccount :=
  { contact := ["mailto:".toList ++ request.email]
    termsOfServiceAgreed := true
    onlyReturnExisting := false }

def accountData (request : Request) (credentials : Text) : AccountData :=
  { credentials, email := request.email, directory := request.directoryUrl }

/-- One step of `load_or_create_account`. Permissions are best effort. -/
def step (request : Request) (storage : Storage) :
    Stage Credentials Account → Event Reply → Option (Storage × Stage Credentials Account)
  | .looking, .done =>
      some (storage, if storage.account.isSome then .reading else .creating)
  -- `exists` is false as well where the file cannot be examined.
  | .looking, .failed _ _ => some (storage, .creating)
  | .reading, .done =>
      match storage.load crates with
      | .ok (data, credentials) => some (storage, .restoring data credentials)
      | .error error => some (storage, .returned (.error error))
  | .reading, .failed error _ =>
      some (storage, .returned (.error ("failed to read account file: " ++ error)))
  | .restoring _ credentials, .reply reply =>
      let account := crates.fromCredentials credentials reply
      some (storage, .returned (account.mapError ("failed to restore account: " ++ ·)))
  | .creating, .reply reply =>
      match crates.create request.newAccount request.directoryUrl reply with
      | .ok (account, credentials) => some (storage, .makingDir account credentials)
      | .error error =>
          some (storage, .returned (.error ("failed to create ACME account: " ++ error)))
  | .makingDir account credentials, .done =>
      match crates.credentialsToString credentials with
      | .ok text =>
          some (storage, .writing account (crates.toStringPretty (request.accountData text)))
      | .error error => some (storage, .returned (.error ("serialize creds: " ++ error)))
  | .makingDir _ _, .failed error _ =>
      some (storage, .returned (.error ("failed to create acme dir: " ++ error)))
  | .writing account json, .done =>
      some ({ storage with tmp := some (.text json) }, .moving account)
  | .writing _ json, .failed error left =>
      some ({ storage with tmp := left.tmp json storage.tmp },
        .returned (.error ("write tmp account: " ++ error)))
  | .moving account, .done =>
      storage.tmp.map fun json => ({ account := some json, tmp := none }, .returned (.ok account))
  | .moving _, .failed error _ =>
      some (storage, .returned (.error ("rename account: " ++ error)))
  | _, _ => none

end Request

/-- The storage directory, and the calls so far. -/
structure History (Credentials Account : Type) where
  storage : Storage
  calls : List (Request × Stage Credentials Account)
  deriving DecidableEq

inductive Action (Reply : Type) where
  | call (request : Request)
  | step (index : ℕ) (event : Event Reply)
  deriving DecidableEq, Repr

namespace History

/-- Nothing has been saved. -/
def init : History Credentials Account :=
  { storage := { account := none, tmp := none }, calls := [] }

def step (s : History Credentials Account) : Action Reply → Option (History Credentials Account)
  | .call request => some { s with calls := s.calls ++ [(request, .looking)] }
  | .step index event => do
      let (request, stage) ← s.calls[index]?
      let (storage, stage) ← request.step crates s.storage stage event
      some { storage, calls := s.calls.set index (request, stage) }

/-- The directory URLs that have been asked for. -/
def Asked (s : History Credentials Account) (url : Text) : Prop :=
  url ∈ s.calls.map fun call => call.1.directoryUrl

/-- Every account that a call has returned is registered at the directory that the call asked
for. -/
def Own (s : History Credentials Account) : Prop :=
  ∀ (index : ℕ) request account, s.calls[index]? = some (request, Stage.returned (.ok account)) →
    crates.registeredAt account = request.directoryUrl

/-- A call that restores the saved account asks for the directory which the file names. -/
def Named (s : History Credentials Account) (action : Action Reply) : Prop :=
  ∀ index reply request data credentials account, action = .step index (.reply reply) →
    s.calls[index]? = some (request, Stage.restoring data credentials) →
    crates.fromCredentials credentials reply = .ok account → data.directory = request.directoryUrl

end History

/-- What `instant_acme` and `serde_json` promise. -/
structure Crates.Lawful : Prop where
  /-- An account is created at the directory given, and so say its credentials. -/
  created : ∀ new url reply account credentials,
    crates.create new url reply = .ok (account, credentials) →
    crates.registeredAt account = url ∧ crates.createdAt credentials = url
  /-- Credentials restore the account at their directory. -/
  restored : ∀ credentials reply account, crates.fromCredentials credentials reply = .ok account →
    crates.registeredAt account = crates.createdAt credentials
  /-- Credentials are read back as they were written. -/
  reread : ∀ credentials text, crates.credentialsToString credentials = .ok text →
    crates.credentialsFromStr text = .ok credentials
  /-- Of the text of an object nothing parses but the whole, and that to the object. -/
  whole : ∀ data front found, front <+: crates.toStringPretty data →
    crates.accountDataFromStr front = .ok found → found = data

/-- Such a file names a directory that has been asked for, the one of its credentials. -/
def Contents.Honest (asked : Text → Prop) (contents : Contents) : Prop :=
  ∀ text data, contents = .text text → crates.accountDataFromStr text = .ok data →
    asked data.directory ∧ ∀ credentials,
      crates.credentialsFromStr data.credentials = .ok credentials →
      crates.createdAt credentials = data.directory

structure Storage.Honest (asked : Text → Prop) (storage : Storage) : Prop where
  account : ∀ contents ∈ storage.account, contents.Honest crates asked
  tmp : ∀ contents ∈ storage.tmp, contents.Honest crates asked

/-- What a call holds on to belongs to the directory it has got it from. -/
def Stage.Sound (asked : Text → Prop) (request : Request) : Stage Credentials Account → Prop
  | .restoring data credentials =>
      asked data.directory ∧ crates.createdAt credentials = data.directory
  | .makingDir account credentials =>
      crates.registeredAt account = request.directoryUrl ∧
        crates.createdAt credentials = request.directoryUrl
  | .writing account json =>
      crates.registeredAt account = request.directoryUrl ∧
        ∀ front, front <+: json → Contents.Honest crates asked (.text front)
  | .moving account => crates.registeredAt account = request.directoryUrl
  | _ => True

variable {crates} {asked later : Text → Prop} {request : Request} {storage after : Storage}
  {stage next : Stage Credentials Account} {event : Event Reply} {contents : Contents}

theorem Contents.Honest.mono (more : ∀ url, asked url → later url)
    (honest : contents.Honest crates asked) : contents.Honest crates later := by
  intro text data same parsed
  rcases honest text data same parsed with ⟨known, credentials⟩
  exact ⟨more _ known, credentials⟩

theorem Contents.honest_notUtf8 : Contents.notUtf8.Honest crates asked := by
  intro text data same
  cases same

theorem Storage.Honest.mono (more : ∀ url, asked url → later url)
    (honest : storage.Honest crates asked) : storage.Honest crates later where
  account contents saved := (honest.account contents saved).mono more
  tmp contents saved := (honest.tmp contents saved).mono more

theorem Stage.Sound.mono (more : ∀ url, asked url → later url)
    (sound : stage.Sound crates asked request) : stage.Sound crates later request := by
  cases stage with
  | restoring => exact ⟨more _ sound.1, sound.2⟩
  | writing => exact ⟨sound.1, fun front cut => (sound.2 front cut).mono more⟩
  | looking | reading | creating | makingDir | moving | returned => exact sound

theorem Storage.Honest.load {data : AccountData} {credentials : Credentials}
    (honest : storage.Honest crates asked)
    (loaded : storage.load crates = .ok (data, credentials)) :
    asked data.directory ∧ crates.createdAt credentials = data.directory := by
  simp only [Storage.load, bind_eq_ok, mapError_eq_ok] at loaded
  rcases loaded with ⟨text, read, accData, parsed, creds, parsedCreds, same⟩
  cases same
  cases saved : storage.account with
  | none =>
      rw [saved] at read
      cases read
  | some contents =>
      rw [saved] at read
      cases contents with
      | notUtf8 => cases read
      | text contents =>
          cases read
          rcases honest.account _ saved _ _ rfl parsed with ⟨known, carried⟩
          exact ⟨known, carried _ parsedCreds⟩

/-- What is saved for new credentials, whole or in part. -/
theorem Crates.Lawful.honest_prefix (lawful : crates.Lawful) {credentials : Credentials}
    {text front : Text} (known : asked request.directoryUrl)
    (created : crates.createdAt credentials = request.directoryUrl)
    (written : crates.credentialsToString credentials = .ok text)
    (cut : front <+: crates.toStringPretty (request.accountData text)) :
    Contents.Honest crates asked (.text front) := by
  rintro _ data ⟨⟩ parsed
  have same := lawful.whole _ _ _ cut parsed
  subst same
  refine ⟨known, ?_⟩
  intro creds reread
  have again := lawful.reread _ _ written
  simp only [Request.accountData] at reread
  rw [again] at reread
  cases reread
  exact created

/-- What a failed write leaves is a part of the text, or what was there before. -/
theorem Left.honest {left : Left} {json : Text} {before : Option Contents}
    (whole : ∀ front, front <+: json → Contents.Honest crates asked (.text front))
    (old : ∀ contents ∈ before, contents.Honest crates asked) :
    ∀ contents ∈ left.tmp json before, contents.Honest crates asked := by
  cases left with
  | untouched => exact old
  | cut length =>
      rintro _ ⟨⟩
      exact whole _ (List.take_prefix _ _)
  | torn =>
      rintro _ ⟨⟩
      exact Contents.honest_notUtf8

/-- Everything a step of a call can do. -/
inductive Stepped (crates : Crates Credentials Account Reply) (request : Request)
    (storage : Storage) : Stage Credentials Account → Event Reply → Storage →
      Stage Credentials Account → Prop where
  | looked {stage : Stage Credentials Account} {event : Event Reply} :
      Stepped crates request storage stage event storage .reading
  | missed {stage : Stage Credentials Account} {event : Event Reply} :
      Stepped crates request storage stage event storage .creating
  | loaded {event : Event Reply} {data : AccountData} {credentials : Credentials}
      (loaded : storage.load crates = .ok (data, credentials)) :
      Stepped crates request storage .reading event storage (.restoring data credentials)
  | restored {data : AccountData} {credentials : Credentials} {reply : Reply} {account : Account}
      (restored : crates.fromCredentials credentials reply = .ok account) :
      Stepped crates request storage (.restoring data credentials) (.reply reply) storage
        (.returned (.ok account))
  | created {reply : Reply} {account : Account} {credentials : Credentials}
      (created : crates.create request.newAccount request.directoryUrl reply =
        .ok (account, credentials)) :
      Stepped crates request storage .creating (.reply reply) storage
        (.makingDir account credentials)
  | serialized {event : Event Reply} {account : Account} {credentials : Credentials} {text : Text}
      (written : crates.credentialsToString credentials = .ok text) :
      Stepped crates request storage (.makingDir account credentials) event storage
        (.writing account (crates.toStringPretty (request.accountData text)))
  | wrote {account : Account} {json : Text} :
      Stepped crates request storage (.writing account json) .done
        { storage with tmp := some (.text json) } (.moving account)
  | tore {account : Account} {json : Text} {error reason : String} {left : Left} :
      Stepped crates request storage (.writing account json) (.failed error left)
        { storage with tmp := left.tmp json storage.tmp } (.returned (.error reason))
  | moved {account : Account} {json : Contents} (saved : storage.tmp = some json) :
      Stepped crates request storage (.moving account) .done { account := some json, tmp := none }
        (.returned (.ok account))
  | failed {stage : Stage Credentials Account} {event : Event Reply} {reason : String} :
      Stepped crates request storage stage event storage (.returned (.error reason))

theorem Request.step_cases
    (stepped : request.step crates storage stage event = some (after, next)) :
    Stepped crates request storage stage event after next := by
  cases stage with
  | looking =>
      cases event with
      | done =>
          cases stepped
          split
          · exact .looked
          · exact .missed
      | failed =>
          cases stepped
          exact .missed
      | reply => cases stepped
  | reading =>
      cases event with
      | done =>
          simp only [Request.step] at stepped
          split at stepped <;> cases stepped
          · rename_i loaded
            exact .loaded loaded
          · exact .failed
      | failed =>
          cases stepped
          exact .failed
      | reply => cases stepped
  | restoring data credentials =>
      cases event with
      | done | failed => cases stepped
      | reply reply =>
          simp only [Request.step] at stepped
          cases restored : crates.fromCredentials credentials reply with
          | ok =>
              rw [restored] at stepped
              cases stepped
              exact .restored restored
          | error =>
              rw [restored] at stepped
              cases stepped
              exact .failed
  | creating =>
      cases event with
      | done | failed => cases stepped
      | reply reply =>
          simp only [Request.step] at stepped
          split at stepped <;> cases stepped
          · rename_i created
            exact .created created
          · exact .failed
  | makingDir account credentials =>
      cases event with
      | done =>
          simp only [Request.step] at stepped
          split at stepped <;> cases stepped
          · rename_i written
            exact .serialized written
          · exact .failed
      | failed =>
          cases stepped
          exact .failed
      | reply => cases stepped
  | writing account json =>
      cases event with
      | done =>
          cases stepped
          exact .wrote
      | failed =>
          cases stepped
          exact .tore
      | reply => cases stepped
  | moving account =>
      cases event with
      | done =>
          rcases Option.map_eq_some_iff.mp stepped with ⟨json, saved, same⟩
          cases same
          exact .moved saved
      | failed =>
          cases stepped
          exact .failed
      | reply => cases stepped
  | returned result => cases event <;> cases stepped

theorem Stage.Sound.step (lawful : crates.Lawful) (known : asked request.directoryUrl)
    (honest : storage.Honest crates asked) (sound : stage.Sound crates asked request)
    (stepped : request.step crates storage stage event = some (after, next)) :
    after.Honest crates asked ∧ next.Sound crates asked request := by
  cases Request.step_cases stepped with
  | looked | missed | restored | failed => exact ⟨honest, trivial⟩
  | loaded loaded => exact ⟨honest, honest.load loaded⟩
  | created created => exact ⟨honest, lawful.created _ _ _ _ _ created⟩
  | serialized written =>
      refine ⟨honest, sound.1, ?_⟩
      intro front cut
      exact lawful.honest_prefix known sound.2 written cut
  | wrote =>
      refine ⟨⟨honest.account, ?_⟩, sound.1⟩
      rintro _ ⟨⟩
      exact sound.2 _ List.prefix_rfl
  | tore => exact ⟨⟨honest.account, Left.honest sound.2 honest.tmp⟩, trivial⟩
  | moved saved =>
      refine ⟨⟨?_, ?_⟩, trivial⟩
      · rintro _ ⟨⟩
        exact honest.tmp _ saved
      · rintro _ ⟨⟩

/-- The two steps that return an account. -/
theorem returned_ok_of_step {account : Account}
    (stepped : request.step crates storage stage event = some (after, .returned (.ok account))) :
    (∃ data credentials reply, stage = .restoring data credentials ∧ event = .reply reply ∧
      crates.fromCredentials credentials reply = .ok account) ∨ stage = .moving account := by
  cases Request.step_cases stepped with
  | restored restored => exact .inl ⟨_, _, _, rfl, rfl, restored⟩
  | moved => exact .inr rfl

namespace History

variable {s reached final : History Credentials Account} {action : Action Reply}
  {actions : List (Action Reply)}

/-- The files are honest, and so is what the calls hold on to. -/
structure Sound (crates : Crates Credentials Account Reply) (s : History Credentials Account) :
    Prop where
  storage : s.storage.Honest crates s.Asked
  calls : ∀ (index : ℕ) request stage, s.calls[index]? = some (request, stage) →
    stage.Sound crates s.Asked request

theorem step_cases (stepped : s.step crates action = some reached) :
    (∃ request, action = .call request ∧
      reached = { s with calls := s.calls ++ [(request, .looking)] }) ∨
    ∃ index event request stage after next, action = .step index event ∧
      s.calls[index]? = some (request, stage) ∧
      request.step crates s.storage stage event = some (after, next) ∧
      reached = { storage := after, calls := s.calls.set index (request, next) } := by
  cases action with
  | call request => exact .inl ⟨request, rfl, (Option.some.inj stepped).symm⟩
  | step index event =>
      simp only [step, Option.bind_eq_bind, Option.bind_eq_some_iff] at stepped
      rcases stepped with ⟨⟨request, stage⟩, found, ⟨after, next⟩, moved, same⟩
      exact .inr ⟨index, event, request, stage, after, next, rfl, found, moved,
        (Option.some.inj same).symm⟩

theorem asked_of_mem {index : ℕ} (found : s.calls[index]? = some (request, stage)) :
    s.Asked request.directoryUrl :=
  List.mem_map.mpr ⟨(request, stage), List.mem_of_getElem? found, rfl⟩

theorem asked_call {url : Text} (asked : s.Asked url) (request : Request) :
    Asked { s with calls := s.calls ++ [(request, .looking)] } url := by
  simp only [Asked, List.map_append]
  exact List.mem_append_left _ asked

/-- A call keeps its arguments. -/
theorem asked_set (after : Storage) (next : Stage Credentials Account) {index : ℕ}
    (found : s.calls[index]? = some (request, stage)) :
    Asked { storage := after, calls := s.calls.set index (request, next) } = s.Asked := by
  rcases List.getElem?_eq_some_iff.mp found with ⟨bound, here⟩
  have same : (s.calls.set index (request, next)).map (fun call => call.1.directoryUrl) =
      s.calls.map fun call => call.1.directoryUrl := by
    calc (s.calls.set index (request, next)).map (fun call => call.1.directoryUrl)
        = (s.calls.set index s.calls[index]).map fun call => call.1.directoryUrl := by
          rw [here, List.map_set, List.map_set]
      _ = s.calls.map fun call => call.1.directoryUrl := by rw [List.set_getElem_self]
  funext url
  simp only [Asked, same]

/-- A call is the new one, or it was there before. -/
theorem mem_call {index : ℕ} {called : Request}
    (got : (s.calls ++ [(called, .looking)])[index]? = some (request, stage)) :
    s.calls[index]? = some (request, stage) ∨ (request = called ∧ stage = .looking) := by
  by_cases old : index < s.calls.length
  · left
    rwa [List.getElem?_append_left old] at got
  · right
    rw [List.getElem?_append_right (by omega)] at got
    have member := List.mem_of_getElem? got
    simp only [List.mem_singleton, Prod.mk.injEq] at member
    exact member

/-- A call is the one that has moved, or it has not moved. -/
theorem mem_set {index other : ℕ} {called : Request}
    (got : (s.calls.set index (called, next))[other]? = some (request, stage)) :
    (other = index ∧ request = called ∧ stage = next) ∨
      (other ≠ index ∧ s.calls[other]? = some (request, stage)) := by
  by_cases same : other = index
  · left
    subst same
    rw [List.getElem?_set_self'] at got
    rcases Option.map_eq_some_iff.mp got with ⟨_, _, moved⟩
    cases moved
    exact ⟨rfl, rfl, rfl⟩
  · right
    rw [List.getElem?_set_ne (Ne.symm same)] at got
    exact ⟨same, got⟩

theorem Sound.step (lawful : crates.Lawful) (sound : s.Sound crates)
    (stepped : s.step crates action = some reached) : reached.Sound crates := by
  rcases step_cases stepped with ⟨called, rfl, rfl⟩ |
    ⟨index, event, called, stage, after, next, rfl, found, moved, rfl⟩
  · refine ⟨sound.storage.mono fun _ asked => asked_call asked called, ?_⟩
    intro other request stage got
    rcases mem_call got with old | ⟨rfl, rfl⟩
    · exact (sound.calls _ _ _ old).mono fun _ asked => asked_call asked called
    · trivial
  · have kept := (sound.calls _ _ _ found).step lawful (asked_of_mem found) sound.storage moved
    rw [← asked_set after next found] at kept
    refine ⟨kept.1, ?_⟩
    intro other request stage got
    rcases mem_set got with ⟨rfl, rfl, rfl⟩ | ⟨_, old⟩
    · exact kept.2
    · rw [asked_set _ _ found]
      exact sound.calls _ _ _ old

theorem sound_init : (init : History Credentials Account).Sound crates := by
  refine ⟨⟨?_, ?_⟩, ?_⟩
  · rintro _ ⟨⟩
  · rintro _ ⟨⟩
  · intro index request stage got
    cases got

/-- An account that is restored is registered at the directory that the file names. -/
theorem Sound.restored (lawful : crates.Lawful) (sound : s.Sound crates) {index : ℕ}
    {data : AccountData} {credentials : Credentials} {reply : Reply} {account : Account}
    (found : s.calls[index]? = some (request, .restoring data credentials))
    (restored : crates.fromCredentials credentials reply = .ok account) :
    crates.registeredAt account = data.directory := by
  have carried := (sound.calls _ _ _ found).2
  rw [lawful.restored _ _ _ restored, carried]

theorem Own.step (lawful : crates.Lawful) (sound : s.Sound crates) (own : s.Own crates)
    (named : s.Named crates action) (stepped : s.step crates action = some reached) :
    reached.Own crates := by
  intro other request account got
  rcases step_cases stepped with ⟨called, rfl, rfl⟩ |
    ⟨index, event, called, stage, after, next, rfl, found, moved, rfl⟩
  · rcases mem_call got with old | ⟨_, same⟩
    · exact own _ _ _ old
    · cases same
  · rcases mem_set got with ⟨rfl, rfl, rfl⟩ | ⟨_, old⟩
    · rcases returned_ok_of_step moved with ⟨data, credentials, reply, rfl, rfl, restored⟩ | rfl
      · rw [sound.restored lawful found restored]
        exact named _ _ _ _ _ _ rfl found restored
      · exact sound.calls _ _ _ found
    · exact own _ _ _ old

/-- What a call has returned stays. -/
theorem returned_step {index : ℕ} {result : Except String Account}
    (got : s.calls[index]? = some (request, .returned result))
    (stepped : s.step crates action = some reached) :
    reached.calls[index]? = some (request, .returned result) := by
  rcases step_cases stepped with ⟨called, rfl, rfl⟩ |
    ⟨other, event, called, stage, after, next, rfl, found, moved, rfl⟩
  · have bound := (List.getElem?_eq_some_iff.mp got).1
    rw [List.getElem?_append_left bound]
    exact got
  · have apart : other ≠ index := by
      rintro rfl
      rw [got] at found
      cases found
      cases event <;> cases moved
    rw [List.getElem?_set_ne apart]
    exact got

theorem not_own_step (strange : ¬ s.Own crates) (stepped : s.step crates action = some reached) :
    ¬ reached.Own crates := by
  intro own
  apply strange
  intro index request account got
  exact own index request account (returned_step got stepped)

/-- Whoever restores an account from a file that names another directory returns it. -/
theorem not_own_of_not_named (lawful : crates.Lawful) (sound : s.Sound crates)
    (other : ¬ s.Named crates action) (stepped : s.step crates action = some reached) :
    ¬ reached.Own crates := by
  simp only [Named, not_forall] at other
  rcases other with ⟨index, reply, request, data, credentials, account, rfl, found, restored, apart⟩
  intro own
  apply apart
  rw [← sound.restored lawful found restored]
  apply own index request account
  simp only [step, found, Request.step, restored, Option.bind_eq_bind, Option.bind_some,
    Option.some.injEq] at stepped
  subst stepped
  rw [List.getElem?_set_self (List.getElem?_eq_some_iff.mp found).1]
  rfl

theorem own_init : (init : History Credentials Account).Own crates := by
  intro index request account got
  cases got

theorem own_of_along (lawful : crates.Lawful)
    (named : Along (step crates) (Named crates) init actions)
    (ran : run (step crates) init actions = some final) : final.Own crates := by
  have both : final.Sound crates ∧ final.Own crates := by
    apply run_invariant (fun current => Sound crates current ∧ Own crates current) _ named ran
      ⟨sound_init, own_init⟩
    rintro current action next ⟨sound, own⟩ named stepped
    exact ⟨sound.step lawful stepped, own.step lawful sound named stepped⟩
  exact both.2

/-- Every account returned is registered at the directory of its call exactly when no call restores
an account from a file that names another directory. -/
theorem own_iff_named (lawful : crates.Lawful)
    (ran : run (step crates) init actions = some final) :
    final.Own crates ↔ Along (step crates) (Named crates) init actions := by
  classical
  constructor
  · intro own
    by_contra other
    refine run_of_not_along (Sound crates) (fun current => ¬ current.Own crates) ?_ ?_ ?_
      sound_init other ran own
    · intro current action next sound stepped
      exact sound.step lawful stepped
    · intro current action next _ strange stepped
      exact not_own_step strange stepped
    · intro current action next sound other stepped
      exact not_own_of_not_named lawful sound other stepped
  · intro named
    exact own_of_along lawful named ran

theorem one_directory_step {url : Text} (one : ∀ asked, s.Asked asked → asked = url)
    (called : ∀ request, action = .call request → request.directoryUrl = url)
    (stepped : s.step crates action = some reached) :
    ∀ asked, reached.Asked asked → asked = url := by
  intro asked known
  rcases step_cases stepped with ⟨request, rfl, rfl⟩ |
    ⟨_, _, request, stage, after, moved, rfl, found, _, rfl⟩
  · simp only [Asked, List.map_append, List.mem_append, List.map_cons, List.map_nil,
      List.mem_singleton] at known
    rcases known with old | rfl
    · exact one asked old
    · exact called request rfl
  · rw [asked_set _ _ found] at known
    exact one asked known

/-- The file names the directory of an earlier call: while all ask for the same one, it is that. -/
theorem named_of_one_directory (lawful : crates.Lawful) {url : Text}
    (same : ∀ request, .call request ∈ actions → request.directoryUrl = url) :
    Along (step crates) (Named crates) init actions := by
  have called : Along (step crates) (fun _ action => ∀ request, action = .call request →
      request.directoryUrl = url) init actions := by
    apply along_of_forall
    rintro action member _ request rfl
    exact same request member
  apply called.of_invariant fun current : History Credentials Account =>
    current.Sound crates ∧ ∀ asked, current.Asked asked → asked = url
  · rintro current action next ⟨sound, one⟩ called stepped
    exact ⟨sound.step lawful stepped, one_directory_step one called stepped⟩
  · rintro current action ⟨sound, one⟩ _ index reply request data credentials account _ found _
    rw [one _ (sound.calls _ _ _ found).1, one _ (asked_of_mem found)]
  · refine ⟨sound_init, ?_⟩
    intro asked known
    cases known

/-- All is well as long as the directory is never changed. -/
theorem own_of_one_directory (lawful : crates.Lawful) {url : Text}
    (same : ∀ request, .call request ∈ actions → request.directoryUrl = url)
    (ran : run (step crates) init actions = some final) : final.Own crates :=
  own_of_along lawful (named_of_one_directory lawful same) ran

end History

end Calls

section Directories

/-- Credentials with the key in base64. -/
structure KeyCredentials where
  id : Text
  keyPkcs8 : Text
  directory : Text
  deriving DecidableEq

structure KeyAccount where
  id : Text
  keyPkcs8 : Text
  directory : Text
  deriving DecidableEq

def accountLabels : List Text :=
  ["\x7b\n  \"credentials\": \"".toList, ",\n  \"email\": \"".toList,
    ",\n  \"directory\": \"".toList]

def credentialLabels : List Text :=
  ["\x7b\"id\":\"".toList, ",\"key_pkcs8\":\"".toList, ",\"directory\":\"".toList]

/-- The JSON of texts without control characters, and directories that answer with the id and the
key of the account. -/
def acme : Crates KeyCredentials KeyAccount (Except String (Text × Text)) where
  accountDataFromStr text :=
    match Quoted.fields "\n\x7d".toList accountLabels text with
    | some [credentials, email, directory] => .ok { credentials, email, directory }
    | _ => .error "expected value at line 1 column 1"
  toStringPretty data :=
    Quoted.record "\n\x7d".toList
      (accountLabels.zip [data.credentials, data.email, data.directory])
  credentialsFromStr text :=
    match Quoted.fields "\x7d".toList credentialLabels text with
    | some [id, keyPkcs8, directory] => .ok { id, keyPkcs8, directory }
    | _ => .error "expected value at line 1 column 1"
  credentialsToString credentials :=
    .ok (Quoted.record "\x7d".toList
      (credentialLabels.zip [credentials.id, credentials.keyPkcs8, credentials.directory]))
  create _ url reply :=
    reply.map fun (id, keyPkcs8) => ({ id, keyPkcs8, directory := url },
      { id, keyPkcs8, directory := url })
  fromCredentials credentials reply :=
    reply.map fun _ => { id := credentials.id, keyPkcs8 := credentials.keyPkcs8,
                         directory := credentials.directory }
  registeredAt := KeyAccount.directory
  createdAt := KeyCredentials.directory

theorem lawful_acme : acme.Lawful where
  created new url reply account credentials created := by
    cases reply <;> cases created
    exact ⟨rfl, rfl⟩
  restored credentials reply account restored := by
    cases reply <;> cases restored
    rfl
  reread credentials text written := by
    cases written
    have read := Quoted.fields_record "\x7d".toList
      (credentialLabels.zip [credentials.id, credentials.keyPkcs8, credentials.directory])
    change Quoted.fields _ credentialLabels _ = _ at read
    simp only [acme, read]
    rfl
  whole data front found cut parsed := by
    simp only [acme] at parsed
    split at parsed
    · rename_i credentials email directory read
      cases parsed
      have same := Quoted.fields_prefix
        (accountLabels.zip [data.credentials, data.email, data.directory]) cut read
      cases same
      rfl
    · cases parsed

def stagingUrl : String :=
  "https://acme-staging-v02.api.letsencrypt.org/directory"

def productionUrl : String :=
  "https://acme-v02.api.letsencrypt.org/directory"

/-- A key pair in PKCS #8, in base64. -/
def keyPkcs8 : Text :=
  "MIGHAgEAMBMGByqGSM49AgEGCCqGSM49AwEHBG0wawIBAQQgpWtTKnf1IaHULdfCJKGoeYiwnyYs5yDf".toList ++
    "Q1a04pb_yF2hRANCAAQm-hExp74dPX0F1UTwxyb2c5eBuqZrMRmyF3vInIsQ8icnRqEsVCMTreUpKlJ3".toList ++
    "rQFRxkYCl1YoIE7fncw8WmM3".toList

def stagingAccount : KeyAccount where
  id := "https://acme-staging-v02.api.letsencrypt.org/acme/acct/1".toList
  keyPkcs8
  directory := stagingUrl.toList

def requestFor (url : String) : Request :=
  { email := "admin@example.org".toList, directoryUrl := url.toList }

/-- The first call creates an account at the staging directory and saves it, the second restores
it. -/
def twoCalls (url : String) : List (Action (Except String (Text × Text))) :=
  [.call (requestFor stagingUrl), .step 0 .done,
    .step 0 (.reply (.ok (stagingAccount.id, stagingAccount.keyPkcs8))),
    .step 0 .done, .step 0 .done, .step 0 .done,
    .call (requestFor url), .step 1 .done, .step 1 .done, .step 1 (.reply (.ok ([], [])))]

theorem own_iff_named_staging :
    ∃ final, run (History.step acme) .init (twoCalls stagingUrl) = some final ∧
      final.calls[1]? = some (requestFor stagingUrl, .returned (.ok stagingAccount)) ∧
      final.Own acme := by
  have ran : ∃ final, run (History.step acme) .init (twoCalls stagingUrl) = some final ∧
      final.calls[1]? = some (requestFor stagingUrl, .returned (.ok stagingAccount)) := by
    apply exists_of_run_any
    decide +kernel
  rcases ran with ⟨final, ran, returned⟩
  have same : ∀ request, .call request ∈ twoCalls stagingUrl →
      request.directoryUrl = stagingUrl.toList := by
    intro request member
    simp only [twoCalls, List.mem_cons, Action.call.injEq, reduceCtorEq, List.not_mem_nil,
      false_or, or_false, or_self] at member
    rw [member]
    rfl
  exact ⟨final, ran, returned, (History.own_iff_named lawful_acme ran).mpr
    (History.named_of_one_directory lawful_acme same)⟩

/-- The production directory is asked for, and the account is one of the staging directory. -/
theorem staging_account_for_production :
    ∃ final, run (History.step acme) .init (twoCalls productionUrl) = some final ∧
      final.calls[1]? = some (requestFor productionUrl, .returned (.ok stagingAccount)) ∧
      ¬ final.Own acme := by
  have ran : ∃ final, run (History.step acme) .init (twoCalls productionUrl) = some final ∧
      final.calls[1]? = some (requestFor productionUrl, .returned (.ok stagingAccount)) := by
    apply exists_of_run_any
    decide +kernel
  rcases ran with ⟨final, ran, returned⟩
  refine ⟨final, ran, returned, ?_⟩
  intro own
  have same : stagingUrl.toList = productionUrl.toList := own _ _ _ returned
  have apart : stagingUrl.toList ≠ productionUrl.toList := by decide +kernel
  exact apart same

end Directories

end RustAsgi.Acme.Account
