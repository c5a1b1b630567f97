import Mathlib.Logic.Function.Basic
import RustAsgi.Machine
import RustAsgi.Tls.Reload

/-!
# Installing a certificate

`acme/certificate.rs`. `atomic_install` writes both halves of a pair to temporary
files and renames them into place one after the other. Each rename is atomic, the
two together are not: whoever stops between them leaves the new certificate with
the old key.
-/

namespace RustAsgi.Tls

open Machine

/-- The steps of `atomic_install`. -/
inductive InstallStep where
  | validate
  | writeCert
  | writeKey
  | renameCert
  | renameKey
  | reload
  deriving DecidableEq, Repr

/-- Where a call of `atomic_install` stands, or the step at which it has returned. -/
inductive Install where
  | validate
  | writeCert
  | writeKey
  | renameCert
  | renameKey
  | reload (reload : Reload)
  | returned (at_ : InstallStep) (result : Except String Unit)

/-- The arguments of `atomic_install`. -/
structure Installation where
  certPem : Bytes
  keyPem : Bytes
  certPath : Path
  keyPath : Path
  deriving DecidableEq, Repr

namespace Installation

def certTmp (call : Installation) : Path :=
  call.certPath.withExtension "pem" "tmp"

def keyTmp (call : Installation) : Path :=
  call.keyPath.withExtension "key" "tmp"

/-- The two files are different, and neither bears the temporary name of the other. -/
structure Separate (call : Installation) : Prop where
  paths : call.certPath ≠ call.keyPath
  certTmp : call.certTmp ≠ call.keyPath
  keyTmp : call.keyTmp ≠ call.certPath

theorem withExtension_ne (path : Path) (inner outer : String) :
    path.withExtension inner outer ≠ path := by
  intro same
  have stems : path.stem ++ "." ++ inner = path.stem := congrArg Path.stem same
  have lengths := congrArg String.length stems
  simp only [String.length_append] at lengths
  have dot : ".".length = 1 := rfl
  omega

theorem certTmp_ne_keyTmp (call : Installation) : call.certTmp ≠ call.keyTmp := by
  intro same
  have stems : call.certPath.stem ++ "." ++ "pem" = call.keyPath.stem ++ "." ++ "key" :=
    congrArg Path.stem same
  have letters := congrArg String.toList stems
  simp only [String.toList_append] at letters
  have inner := List.append_inj_right' letters rfl
  cases inner

theorem separate_of_renewal (certPem keyPem : Bytes) (storageDir : String) :
    Separate { certPem, keyPem, certPath := ⟨storageDir, "cert", some "pem"⟩,
               keyPath := ⟨storageDir, "key", some "pem"⟩ } where
  paths := by simp
  certTmp := by simp [certTmp, Path.withExtension]
  keyTmp := by simp [keyTmp, Path.withExtension]

end Installation

/-- `validate_pem_pair`. -/
def validatePemPair (pki : Pki) (certPem keyPem : Bytes) : Except String Unit :=
  match pki.certs certPem with
  | .error reason => .error ("cert parse: " ++ reason)
  | .ok [] => .error "no certs"
  | .ok (first :: rest) =>
      match pki.privateKey keyPem with
      | .error reason => .error ("key parse: " ++ reason)
      | .ok none => .error "no key"
      | .ok (some key) =>
          match validatePair pki (first :: rest) key with
          | .error failure => .error failure.display
          | .ok () => if pki.parsesX509 first then .ok () else .error "x509 parse failed"

/-- How a filesystem call ends. A write that fails may have left anything in its file. -/
inductive Outcome where
  | succeeds (modified : ℕ)
  | fails (error : String) (left : File)
  deriving DecidableEq, Repr

def missing : File :=
  { read := .missing, modified := none }

/-- `fs::rename`, which fails when there is nothing to rename. -/
def rename (files : FileSystem) (source target : Path) : Option FileSystem :=
  match (files source).read with
  | .missing => none
  | _ => some (Function.update (Function.update files source missing) target (files source))

namespace Install

/-- One step of `atomic_install`. Permissions and `sync_all` are best effort and change nothing
that a read could find. -/
def step (pki : Pki) (call : Installation) (files : FileSystem) (tls : TlsState)
    (outcome : Outcome) : Install → Option (FileSystem × TlsState × Install)
  | .validate =>
      match validatePemPair pki call.certPem call.keyPem with
      | .error error => some (files, tls, .returned .validate (.error error))
      | .ok () => some (files, tls, .writeCert)
  | .writeCert =>
      match outcome with
      | .succeeds modified =>
          let written : File := { read := .contents call.certPem, modified := some modified }
          some (Function.update files call.certTmp written, tls, .writeKey)
      | .fails error left =>
          some (Function.update files call.certTmp left, tls,
            .returned .writeCert (.error ("write cert tmp: " ++ error)))
  | .writeKey =>
      match outcome with
      | .succeeds modified =>
          let written : File := { read := .contents call.keyPem, modified := some modified }
          some (Function.update files call.keyTmp written, tls, .renameCert)
      | .fails error left =>
          some (Function.update files call.keyTmp left, tls,
            .returned .writeKey (.error ("write key tmp: " ++ error)))
  | .renameCert =>
      match outcome with
      | .succeeds _ =>
          (rename files call.certTmp call.certPath).map fun files => (files, tls, .renameKey)
      | .fails error _ =>
          some (files, tls, .returned .renameCert (.error ("rename cert: " ++ error)))
  | .renameKey =>
      match outcome with
      | .succeeds _ =>
          (rename files call.keyTmp call.keyPath).map fun files =>
            (files, tls, .reload (.loading .readCert))
      | .fails error _ =>
          some (files, tls, .returned .renameKey (.error ("rename key: " ++ error)))
  | .reload (.done (.ok ())) => some (files, tls, .returned .reload (.ok ()))
  | .reload (.done (.error failure)) =>
      some (files, tls, .returned .reload (.error ("reload: " ++ failure.display)))
  | .reload load =>
      (load.step pki call.certPath call.keyPath files tls).map fun (tls, load) =>
        (files, tls, .reload load)
  | .returned _ _ => none

end Install

/-- A call of `atomic_install` that nobody disturbs. -/
structure Site where
  files : FileSystem
  tls : TlsState
  install : Install

namespace Site

variable {pki : Pki} {call : Installation} {s next final : Site} {outcome : Outcome}
  {outcomes : List Outcome} {oldCert oldKey : Bytes}

def step (pki : Pki) (call : Installation) (s : Site) (outcome : Outcome) : Option Site :=
  (s.install.step pki call s.files s.tls outcome).map fun (files, tls, install) =>
    { files, tls, install }

/-- The contents at the two paths. -/
def Holds (call : Installation) (s : Site) (certPem keyPem : Bytes) : Prop :=
  (s.files call.certPath).read = .contents certPem ∧ (s.files call.keyPath).read = .contents keyPem

/-- The two PEM texts pass `validate_pair`. -/
def Matching (pki : Pki) (certPem keyPem : Bytes) : Prop :=
  ∃ certs key, pki.certs certPem = .ok certs ∧ pki.privateKey keyPem = .ok (some key) ∧
    validatePair pki certs key = .ok ()

/-- The old pair or the new one is in place, and nothing else than a failing reload has spoilt the
call for the old one. -/
structure Intact (pki : Pki) (call : Installation) (oldCert oldKey : Bytes) (s : Site) : Prop where
  pair : ∃ certPem keyPem, Holds call s certPem keyPem ∧ Matching pki certPem keyPem ∧
    ((certPem = oldCert ∧ keyPem = oldKey) ∨ (certPem = call.certPem ∧ keyPem = call.keyPem))
  kept : ∀ at_ error, s.install = .returned at_ (.error error) → at_ ≠ .reload →
    Holds call s oldCert oldKey

/-- The call does not end between the two renames, unless one of the files has not changed. -/
def Unsplit (call : Installation) (oldCert oldKey : Bytes) (s : Site) : Prop :=
  match s.install with
  | .renameKey => call.certPem = oldCert ∨ call.keyPem = oldKey
  | .returned .renameKey _ => call.certPem = oldCert
  | _ => True

/-- What the files hold at each step of the call. -/
def AtStep (pki : Pki) (call : Installation) (oldCert oldKey : Bytes) (s : Site) : Prop :=
  match s.install with
  | .validate | .returned .validate _ | .returned .writeCert _ | .returned .writeKey _
  | .returned .renameCert _ => Holds call s oldCert oldKey
  | .writeCert => Holds call s oldCert oldKey ∧ Matching pki call.certPem call.keyPem
  | .writeKey =>
      Holds call s oldCert oldKey ∧ Matching pki call.certPem call.keyPem ∧
        (s.files call.certTmp).read = .contents call.certPem
  | .renameCert =>
      Holds call s oldCert oldKey ∧ Matching pki call.certPem call.keyPem ∧
        (s.files call.certTmp).read = .contents call.certPem ∧
        (s.files call.keyTmp).read = .contents call.keyPem
  | .renameKey =>
      Holds call s call.certPem oldKey ∧ Matching pki call.certPem call.keyPem ∧
        (s.files call.keyTmp).read = .contents call.keyPem
  | .returned .renameKey result =>
      Holds call s call.certPem oldKey ∧ Matching pki call.certPem call.keyPem ∧
        ∃ error, result = .error error
  | .reload _ | .returned .reload _ =>
      Holds call s call.certPem call.keyPem ∧ Matching pki call.certPem call.keyPem

theorem matching_of_validatePemPair {certPem keyPem : Bytes}
    (valid : validatePemPair pki certPem keyPem = .ok ()) : Matching pki certPem keyPem := by
  simp only [validatePemPair] at valid
  split at valid
  · cases valid
  · cases valid
  · rename_i first rest certs
    split at valid
    · cases valid
    · cases valid
    · rename_i key loaded
      split at valid
      · cases valid
      · rename_i matched
        exact ⟨first :: rest, key, certs, loaded, matched⟩

theorem rename_eq {files renamed : FileSystem} {source target : Path}
    (moved : rename files source target = some renamed) :
    renamed = Function.update (Function.update files source missing) target (files source) := by
  simp only [rename] at moved
  split at moved
  · cases moved
  · exact (Option.some.inj moved).symm

theorem Holds.update {certPem keyPem : Bytes} {path : Path} (holds : Holds call s certPem keyPem)
    (cert : path ≠ call.certPath) (key : path ≠ call.keyPath) (file : File) (tls : TlsState)
    (install : Install) :
    Holds call ⟨Function.update s.files path file, tls, install⟩ certPem keyPem := by
  simp only [Holds, Function.update_of_ne cert.symm, Function.update_of_ne key.symm]
  exact holds

theorem Holds.renameCert {certPem keyPem : Bytes} {renamed : FileSystem} (separate : call.Separate)
    (holds : Holds call s certPem keyPem)
    (written : (s.files call.certTmp).read = .contents call.certPem)
    (moved : rename s.files call.certTmp call.certPath = some renamed) (tls : TlsState)
    (install : Install) : Holds call ⟨renamed, tls, install⟩ call.certPem keyPem := by
  rw [rename_eq moved]
  refine ⟨?_, ?_⟩
  · simpa only [Function.update_self] using written
  · simp only [Function.update_of_ne separate.paths.symm,
      Function.update_of_ne separate.certTmp.symm]
    exact holds.2

theorem Holds.renameKey {certPem keyPem : Bytes} {renamed : FileSystem} (separate : call.Separate)
    (holds : Holds call s certPem keyPem)
    (written : (s.files call.keyTmp).read = .contents call.keyPem)
    (moved : rename s.files call.keyTmp call.keyPath = some renamed) (tls : TlsState)
    (install : Install) : Holds call ⟨renamed, tls, install⟩ certPem call.keyPem := by
  rw [rename_eq moved]
  refine ⟨?_, ?_⟩
  · simp only [Function.update_of_ne separate.paths, Function.update_of_ne separate.keyTmp.symm]
    exact holds.1
  · simpa only [Function.update_self] using written

theorem AtStep.step (separate : call.Separate) (atStep : AtStep pki call oldCert oldKey s)
    (stepped : s.step pki call outcome = some next) : AtStep pki call oldCert oldKey next := by
  have certTmp := Installation.withExtension_ne call.certPath "pem" "tmp"
  have keyTmp := Installation.withExtension_ne call.keyPath "key" "tmp"
  have apart := call.certTmp_ne_keyTmp
  simp only [Site.step, Option.map_eq_some_iff] at stepped
  rcases stepped with ⟨⟨files, tls, install⟩, moved, rfl⟩
  rcases s with ⟨before, served, stage⟩
  cases stage with
  | validate =>
      simp only [Install.step] at moved
      split at moved <;> cases moved
      · exact atStep
      · rename_i valid
        exact ⟨atStep, matching_of_validatePemPair valid⟩
  | writeCert =>
      rcases atStep with ⟨holds, valid⟩
      simp only [Install.step] at moved
      split at moved <;> cases moved
      · refine ⟨holds.update certTmp separate.certTmp _ _ _, valid, ?_⟩
        simp only [Function.update_self]
      · exact holds.update certTmp separate.certTmp _ _ _
  | writeKey =>
      rcases atStep with ⟨holds, valid, written⟩
      simp only [Install.step] at moved
      split at moved <;> cases moved
      · refine ⟨holds.update separate.keyTmp keyTmp _ _ _, valid, ?_, ?_⟩
        · simp only [Function.update_of_ne apart]
          exact written
        · simp only [Function.update_self]
      · exact holds.update separate.keyTmp keyTmp _ _ _
  | renameCert =>
      rcases atStep with ⟨holds, valid, certWritten, keyWritten⟩
      simp only [Install.step] at moved
      split at moved
      · simp only [Option.map_eq_some_iff, Prod.mk.injEq] at moved
        rcases moved with ⟨_, moved, rfl, rfl, rfl⟩
        refine ⟨holds.renameCert separate certWritten moved _ _, valid, ?_⟩
        rw [rename_eq moved]
        simp only [Function.update_of_ne separate.keyTmp, Function.update_of_ne apart.symm]
        exact keyWritten
      · cases moved
        exact holds
  | renameKey =>
      rcases atStep with ⟨holds, valid, written⟩
      simp only [Install.step] at moved
      split at moved
      · simp only [Option.map_eq_some_iff, Prod.mk.injEq] at moved
        rcases moved with ⟨_, moved, rfl, rfl, rfl⟩
        exact ⟨holds.renameKey separate written moved _ _, valid⟩
      · cases moved
        exact ⟨holds, valid, _, rfl⟩
  | reload load =>
      -- A reload changes the served configuration, and no file.
      cases load with
      | done result =>
          cases result <;> cases moved <;> exact atStep
      | loading load =>
          simp only [Install.step, Option.map_eq_some_iff, Prod.mk.injEq] at moved
          rcases moved with ⟨_, _, rfl, rfl, rfl⟩
          exact atStep
  | returned at_ result => cases moved

theorem Holds.inj {certPem keyPem otherCert otherKey : Bytes} (holds : Holds call s certPem keyPem)
    (other : Holds call s otherCert otherKey) : certPem = otherCert ∧ keyPem = otherKey := by
  rcases holds with ⟨cert, key⟩
  rw [other.1] at cert
  rw [other.2] at key
  exact ⟨(FileRead.contents.inj cert).symm, (FileRead.contents.inj key).symm⟩

theorem Intact.of_old (holds : Holds call s oldCert oldKey) (old : Matching pki oldCert oldKey) :
    Intact pki call oldCert oldKey s :=
  ⟨⟨oldCert, oldKey, holds, old, .inl ⟨rfl, rfl⟩⟩, fun _ _ _ _ => holds⟩

theorem Intact.of_new (holds : Holds call s call.certPem call.keyPem)
    (valid : Matching pki call.certPem call.keyPem)
    (late : ∀ at_ error, s.install = .returned at_ (.error error) → at_ = .reload) :
    Intact pki call oldCert oldKey s :=
  ⟨⟨_, _, holds, valid, .inr ⟨rfl, rfl⟩⟩, fun at_ error returned early =>
    absurd (late at_ error returned) early⟩

/-- The new certificate with the old key is neither pair, unless a file has not changed. -/
theorem Intact.split (intact : Intact pki call oldCert oldKey s)
    (holds : Holds call s call.certPem oldKey) :
    call.certPem = oldCert ∨ call.keyPem = oldKey := by
  rcases intact.pair with ⟨certPem, keyPem, found, _, ⟨rfl, rfl⟩ | ⟨rfl, rfl⟩⟩
  · exact .inl (holds.inj found).1
  · exact .inr (holds.inj found).2.symm

/-- From wherever the call ends, by a failure or a crash: the pair is intact exactly when the call
did not end between its two renames with both files to change. -/
theorem intact_iff_unsplit (separate : call.Separate) (begins : s.install = .validate)
    (holds : Holds call s oldCert oldKey) (old : Matching pki oldCert oldKey)
    (ran : run (step pki call) s outcomes = some final) :
    Intact pki call oldCert oldKey final ↔ Unsplit call oldCert oldKey final := by
  have start : AtStep pki call oldCert oldKey s := by
    simp only [AtStep, begins]
    exact holds
  have atStep : AtStep pki call oldCert oldKey final :=
    run_invariant_of_step (AtStep pki call oldCert oldKey)
      (fun _ _ _ atStep stepped => atStep.step separate stepped) ran start
  rcases final with ⟨files, tls, install⟩
  cases install with
  | validate => exact iff_of_true (.of_old atStep old) trivial
  | writeCert | writeKey | renameCert => exact iff_of_true (.of_old atStep.1 old) trivial
  | renameKey =>
      rcases atStep with ⟨split_, valid, _⟩
      constructor
      · intro intact
        exact intact.split split_
      · intro unchanged
        simp only [Unsplit] at unchanged
        rcases unchanged with same | same
        · rw [same] at split_
          exact .of_old split_ old
        · rw [← same] at split_
          exact .of_new split_ valid nofun
  | reload => exact iff_of_true (.of_new atStep.1 atStep.2 nofun) trivial
  | returned at_ result =>
      cases at_ with
      | validate | writeCert | writeKey | renameCert =>
          exact iff_of_true (.of_old atStep old) trivial
      | renameKey =>
          rcases atStep with ⟨split_, valid, error, rfl⟩
          constructor
          · intro intact
            exact (split_.inj (intact.kept _ _ rfl nofun)).1
          · intro (same : call.certPem = oldCert)
            rw [same] at split_
            exact .of_old split_ old
      | reload =>
          refine iff_of_true (.of_new atStep.1 atStep.2 ?_) trivial
          intro at_ error returned
          cases returned
          rfl

def renewal : Installation :=
  { certPem := [2], keyPem := [2], certPath := ⟨"acme", "cert", some "pem"⟩,
    keyPath := ⟨"acme", "key", some "pem"⟩ }

/-- The first pair is in place and served. -/
def installed : Site :=
  { files := fun path => if path = renewal.certPath ∨ path = renewal.keyPath then
      { read := .contents [1], modified := some 0 } else missing
    tls := { config := { certResolver := .single { certs := [[1]], key := [1] },
                         alpnProtocols := ["http/1.1"] },
             certCount := 1, certPath := some renewal.certPath, keyPath := some renewal.keyPath }
    install := .validate }

theorem matching_installed : Matching twins [1] [1] :=
  ⟨[[1]], [1], rfl, rfl, rfl⟩

/-- The disk is full when the key is written. -/
theorem intact_iff_unsplit_full :
    ∃ final, run (step twins renewal) installed [.succeeds 1, .succeeds 1,
        .fails "No space left on device" missing] = some final ∧
      Intact twins renewal [1] [1] final := by
  have separate : renewal.Separate := Installation.separate_of_renewal [2] [2] "acme"
  have ran : ∃ final, run (step twins renewal) installed [.succeeds 1, .succeeds 1,
      .fails "No space left on device" missing] = some final ∧ Unsplit renewal [1] [1] final :=
    ⟨_, rfl, trivial⟩
  rcases ran with ⟨final, ran, unsplit⟩
  exact ⟨final, ran,
    (intact_iff_unsplit separate rfl ⟨rfl, rfl⟩ matching_installed ran).mpr unsplit⟩

/-- The second rename fails: the new certificate stays with the old key. -/
theorem split_by_rename :
    ∃ final, run (step twins renewal) installed [.succeeds 1, .succeeds 1, .succeeds 1,
        .succeeds 1, .fails "Permission denied" missing] = some final ∧
      ¬ Intact twins renewal [1] [1] final ∧ ¬ Matching twins [2] [1] ∧
      Holds renewal final [2] [1] := by
  refine ⟨_, rfl, ?_, ?_, rfl, rfl⟩
  · intro intact
    rcases intact.split ⟨rfl, rfl⟩ with same | same <;> cases same
  · rintro ⟨certs, key, chain, loaded, valid⟩
    cases chain
    cases loaded
    cases valid

end Site

end RustAsgi.Tls
