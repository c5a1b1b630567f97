import RustAsgi.Acme.Certificate
import RustAsgi.Tls.Challenge

/-!
# Ordering a certificate

`try_acme_issuance` in `acme/renewal.rs`. The authorization of each challenge is put
in the store before the directory is told that it is ready, and the store is cleared
at the very end of the function. A `?` on the way leaves before that.
-/

namespace RustAsgi.Acme

open Machine Tls

inductive ChallengeType where
  | http01
  | dns01
  | tlsAlpn01
  deriving DecidableEq, Repr

/-- `instant_acme::Challenge`. -/
structure Challenge where
  type : ChallengeType
  url : Text
  token : Text
  deriving DecidableEq, Repr

/-- `instant_acme::Authorization`. -/
structure Authorization where
  challenges : List Challenge
  deriving DecidableEq, Repr

def Authorization.http01 (authz : Authorization) : Option Challenge :=
  authz.challenges.find? fun challenge => challenge.type = .http01

inductive OrderStatus where
  | pending
  | ready
  | processing
  | valid
  | invalid
  deriving DecidableEq, Repr

/-- The arguments that the calls below need, and the key authorizations of the account. -/
structure Issuer where
  pki : Pki
  keyAuthorization : Challenge → Text
  certPath : Path
  keyPath : Path

/-- What a call of `try_acme_issuance` waits for, or what it has returned. -/
inductive Stage where
  | account
  | newOrder
  | authorizations
  /-- At the head of the loop over the authorizations. -/
  | placing (rest : List Authorization)
  /-- In `set_challenge_ready`, with the authorizations that come after. -/
  | notifying (url : Text) (rest : List Authorization)
  | polling (tries : ℕ)
  | generating
  | installing (call : Installation)
  | cleaning
  | returned (result : Except String Unit)

/-- A call of `try_acme_issuance`. -/
structure Issuance where
  store : ChallengeStore
  site : Site
  /-- The authorizations that the loop has passed: all of them once it is over. -/
  passed : List Authorization
  stage : Stage

inductive Action where
  | account (result : Except String Unit)
  | newOrder (result : Except String Unit)
  | authorizations (result : Except String (List Authorization))
  | setChallengeReady (result : Except String Unit)
  | refresh (result : Except String OrderStatus)
  | generateSelfSigned (result : Except String (Bytes × Bytes))
  /-- A step of `atomic_install`. -/
  | install (outcome : Outcome)
  /-- Code that waits for nothing. -/
  | proceed
  /-- Another task has written files or reloaded them. -/
  | disturb (files : FileSystem) (tls : TlsState)

/-- The tokens of the HTTP-01 challenges. -/
def tokens (authzs : List Authorization) : List Text :=
  authzs.filterMap fun authz => authz.http01.map Challenge.token

/-- The clean-up loop. -/
def withdraw (store : ChallengeStore) (authzs : List Authorization) : ChallengeStore :=
  (tokens authzs).foldl ChallengeStore.remove store

namespace Issuance

/-- A call that has just begun. -/
def called (store : ChallengeStore) (site : Site) : Issuance :=
  { store, site, passed := [], stage := .account }

/-- The tokens that the call has put in the store. -/
def inserted (s : Issuance) : List Text :=
  (tokens s.passed).filter isValidToken

/-- The error with which a `?` or a `return Err` leaves the function here. -/
def error? (s : Issuance) (action : Action) : Option String :=
  match s.stage, action with
  | .account, .account (.error e) => some e
  | .newOrder, .newOrder (.error e) => some ("new order: " ++ e)
  | .authorizations, .authorizations (.error e) => some ("authz: " ++ e)
  | .placing (authz :: _), .proceed =>
      match authz.http01 with
      | none => some "no http01 challenge"
      | some _ => none
  | .notifying _ _, .setChallengeReady (.error e) => some ("set challenge ready: " ++ e)
  | .polling _, .refresh (.error e) => some ("refresh: " ++ e)
  | .polling _, .refresh (.ok .invalid) => some "order invalid"
  | .polling _, .refresh (.ok .ready) => none
  | .polling tries, .refresh (.ok _) => if 10 < tries + 1 then some "order not ready" else none
  | .generating, .generateSelfSigned (.error e) => some e
  | .installing _, .proceed =>
      match s.site.install with
      | .returned _ (.error e) => some e
      | _ => none
  | _, _ => none

def fail (s : Issuance) (error : String) : Issuance :=
  { s with stage := .returned (.error error) }

/-- One step where the function goes on. -/
def advance (issuer : Issuer) (s : Issuance) (action : Action) : Option Issuance :=
  match s.stage, action with
  | .account, .account (.ok ()) => some { s with stage := .newOrder }
  | .newOrder, .newOrder (.ok ()) => some { s with stage := .authorizations }
  | .authorizations, .authorizations (.ok authzs) => some { s with stage := .placing authzs }
  | .placing [], .proceed => some { s with stage := .polling 0 }
  | .placing (authz :: rest), .proceed =>
      authz.http01.map fun challenge =>
        { s with
          store := s.store.insert challenge.token (issuer.keyAuthorization challenge)
          passed := s.passed ++ [authz]
          stage := .notifying challenge.url rest }
  | .notifying _ rest, .setChallengeReady (.ok ()) => some { s with stage := .placing rest }
  | .polling _, .refresh (.ok .ready) => some { s with stage := .generating }
  | .polling tries, .refresh (.ok _) => some { s with stage := .polling (tries + 1) }
  | .generating, .generateSelfSigned (.ok (certPem, keyPem)) =>
      some { s with
        site := { s.site with install := .validate }
        stage := .installing
          { certPem, keyPem, certPath := issuer.certPath, keyPath := issuer.keyPath } }
  | .installing call, .install outcome =>
      (s.site.step issuer.pki call outcome).map fun site => { s with site }
  | .installing _, .proceed =>
      match s.site.install with
      | .returned _ (.ok ()) => some { s with stage := .cleaning }
      | _ => none
  | .cleaning, .proceed =>
      some { s with store := withdraw s.store s.passed, stage := .returned (.ok ()) }
  | _, .disturb files tls => some { s with site := { s.site with files, tls } }
  | _, _ => none

def step (issuer : Issuer) (s : Issuance) (action : Action) : Option Issuance :=
  match s.error? action with
  | some error => some (s.fail error)
  | none => s.advance issuer action

/-- The store has lost the tokens of this call, and is otherwise as before. -/
def Withdrawn (before : ChallengeStore) (s : Issuance) : Prop :=
  ∀ token, s.store.get token = if token ∈ s.inserted then none else before.get token

/-- The store has the tokens of this call, and is otherwise as before. -/
structure Holding (before : ChallengeStore) (s : Issuance) : Prop where
  placed : ∀ token ∈ s.inserted, s.store.get token ≠ none
  others : ∀ token, token ∉ s.inserted → s.store.get token = before.get token

/-- What the store holds at each stage. -/
def AtStage (before : ChallengeStore) (s : Issuance) : Prop :=
  match s.stage with
  | .returned (.ok ()) => Withdrawn before s
  | _ => Holding before s

/-- No `?` leaves the function after a token has been placed. -/
def Permitted (s : Issuance) (action : Action) : Prop :=
  s.error? action = none ∨ s.inserted = []

instance (s : Issuance) (action : Action) : Decidable (s.Permitted action) :=
  inferInstanceAs (Decidable (_ ∨ _))

/-- The call has failed with tokens in the store. -/
def Abandoned (s : Issuance) : Prop :=
  ∃ error, s.stage = .returned (.error error) ∧ s.inserted ≠ []

variable {issuer : Issuer} {before : ChallengeStore} {s next final : Issuance} {action : Action}
  {actions : List Action} {result : Except String Unit}

theorem get_withdraw (store : ChallengeStore) (authzs : List Authorization) (token : Text) :
    (withdraw store authzs).get token =
      if token ∈ tokens authzs then none else store.get token := by
  simp only [withdraw]
  induction tokens authzs generalizing store with
  | nil => simp
  | cons first rest ih =>
      rw [List.foldl_cons, ih, ChallengeStore.get_remove]
      by_cases later : token ∈ rest
      · simp [later]
      · simp [later]

theorem tokens_append (front back : List Authorization) :
    tokens (front ++ back) = tokens front ++ tokens back :=
  List.filterMap_append

theorem step_cases (stepped : s.step issuer action = some next) :
    (∃ error, s.error? action = some error ∧ next = s.fail error) ∨
      s.error? action = none ∧ s.advance issuer action = some next := by
  simp only [step] at stepped
  split at stepped
  · rename_i error fails
    exact .inl ⟨error, fails, (Option.some.inj stepped).symm⟩
  · rename_i goesOn
    exact .inr ⟨goesOn, stepped⟩

/-- A step that goes on leaves the store alone, places a challenge or cleans up. -/
theorem advance_cases (advanced : s.advance issuer action = some next) :
    (next.store = s.store ∧ next.passed = s.passed ∧
      (next.stage = s.stage ∨
        (∀ result, s.stage ≠ .returned result) ∧ ∀ result, next.stage ≠ .returned result)) ∨
    (∃ authz rest challenge, s.stage = .placing (authz :: rest) ∧
      authz.http01 = some challenge ∧
      next = { s with
        store := s.store.insert challenge.token (issuer.keyAuthorization challenge)
        passed := s.passed ++ [authz]
        stage := .notifying challenge.url rest }) ∨
    (s.stage = .cleaning ∧
      next = { s with store := withdraw s.store s.passed, stage := .returned (.ok ()) }) := by
  rcases s with ⟨store, site, passed, stage⟩
  simp only [advance] at advanced
  split at advanced
  next => cases advanced; exact .inl ⟨rfl, rfl, .inr ⟨nofun, nofun⟩⟩
  next => cases advanced; exact .inl ⟨rfl, rfl, .inr ⟨nofun, nofun⟩⟩
  next => cases advanced; exact .inl ⟨rfl, rfl, .inr ⟨nofun, nofun⟩⟩
  next => cases advanced; exact .inl ⟨rfl, rfl, .inr ⟨nofun, nofun⟩⟩
  next authz rest =>
    rcases Option.map_eq_some_iff.mp advanced with ⟨challenge, found, rfl⟩
    exact .inr (.inl ⟨authz, rest, challenge, rfl, found, rfl⟩)
  next => cases advanced; exact .inl ⟨rfl, rfl, .inr ⟨nofun, nofun⟩⟩
  next => cases advanced; exact .inl ⟨rfl, rfl, .inr ⟨nofun, nofun⟩⟩
  next => cases advanced; exact .inl ⟨rfl, rfl, .inr ⟨nofun, nofun⟩⟩
  next => cases advanced; exact .inl ⟨rfl, rfl, .inr ⟨nofun, nofun⟩⟩
  next =>
    rcases Option.map_eq_some_iff.mp advanced with ⟨site, _, rfl⟩
    exact .inl ⟨rfl, rfl, .inl rfl⟩
  next =>
    split at advanced
    · cases advanced
      exact .inl ⟨rfl, rfl, .inr ⟨nofun, nofun⟩⟩
    · cases advanced
  next =>
    cases advanced
    exact .inr (.inr ⟨rfl, rfl⟩)
  next => cases advanced; exact .inl ⟨rfl, rfl, .inl rfl⟩
  next => cases advanced

theorem open_of_error {error : String} (fails : s.error? action = some error) :
    ∀ result, s.stage ≠ .returned result := by
  intro result returned
  simp [error?, returned] at fails

theorem AtStage.holding (atStage : AtStage before s) (running : s.stage ≠ .returned (.ok ())) :
    Holding before s := by
  unfold AtStage at atStage
  split at atStage
  next returned => exact absurd returned running
  next => exact atStage

theorem Holding.atStage (holding : Holding before s) (running : s.stage ≠ .returned (.ok ())) :
    AtStage before s := by
  unfold AtStage
  split
  next returned => exact absurd returned running
  next => exact holding

theorem inserted_congr (passed : next.passed = s.passed) : next.inserted = s.inserted := by
  simp only [inserted, passed]

theorem Holding.congr (holding : Holding before s) (store : next.store = s.store)
    (passed : next.passed = s.passed) : Holding before next where
  placed := by
    rw [inserted_congr passed, store]
    exact holding.placed
  others := by
    rw [inserted_congr passed, store]
    exact holding.others

/-- The invariant reads only the store, the authorizations and the stage. -/
theorem AtStage.congr (atStage : AtStage before s) (store : next.store = s.store)
    (passed : next.passed = s.passed) (stage : next.stage = s.stage) : AtStage before next := by
  unfold AtStage at atStage ⊢
  rw [stage]
  split at atStage
  next =>
    intro token
    rw [store, inserted_congr passed]
    exact atStage token
  next => exact atStage.congr store passed

theorem Holding.place {authz : Authorization} {challenge : Challenge} {stage : Stage}
    (holding : Holding before s) (found : authz.http01 = some challenge) (auth : Text) :
    Holding before { s with
      store := s.store.insert challenge.token auth, passed := s.passed ++ [authz], stage } := by
  have tokens_ : tokens (s.passed ++ [authz]) = tokens s.passed ++ [challenge.token] := by
    rw [tokens_append]
    simp [tokens, found]
  have member : ∀ token, token ∈ (tokens s.passed ++ [challenge.token]).filter isValidToken ↔
      token ∈ s.inserted ∨ (token = challenge.token ∧ isValidToken challenge.token = true) := by
    intro token
    simp only [inserted, List.filter_append, List.mem_append, List.mem_filter, List.mem_singleton]
    constructor
    · rintro (old | ⟨rfl, valid⟩)
      · exact .inl old
      · exact .inr ⟨rfl, valid⟩
    · rintro (old | ⟨rfl, valid⟩)
      · exact .inl old
      · exact .inr ⟨rfl, valid⟩
  refine ⟨?_, ?_⟩
  · intro token inside
    simp only [inserted, tokens_, member] at inside
    rw [ChallengeStore.get_insert]
    split
    next => nofun
    next other => exact holding.placed token (inside.resolve_right other)
  · intro token outside
    simp only [inserted, tokens_, member, not_or] at outside
    rw [ChallengeStore.get_insert, if_neg outside.2]
    exact holding.others token outside.1

theorem Holding.withdraw (holding : Holding before s) :
    Withdrawn before
      { s with store := withdraw s.store s.passed, stage := .returned (.ok ()) } := by
  intro token
  simp only [get_withdraw, inserted, List.mem_filter]
  by_cases valid : isValidToken token = true
  · simp only [valid, and_true]
    split
    next => rfl
    next outside =>
      apply holding.others token
      intro inside
      exact outside (List.mem_filter.mp inside).1
  · have invalid := Bool.eq_false_iff.mpr valid
    simp [ChallengeStore.get_of_invalid invalid]

theorem AtStage.step (atStage : AtStage before s) (stepped : s.step issuer action = some next) :
    AtStage before next := by
  rcases step_cases stepped with ⟨error, fails, rfl⟩ | ⟨_, advanced⟩
  · have holding := atStage.holding (open_of_error fails _)
    refine Holding.atStage (holding.congr rfl rfl) ?_
    nofun
  · rcases advance_cases advanced with ⟨store, passed, same | ⟨running, still⟩⟩ |
      ⟨authz, rest, challenge, placing, found, rfl⟩ | ⟨cleaning, rfl⟩
    · exact atStage.congr store passed same
    · have holding := atStage.holding (running _)
      exact (holding.congr store passed).atStage (still _)
    · have holding := atStage.holding (by simp [placing])
      exact (holding.place found _).atStage nofun
    · exact (atStage.holding (by simp [cleaning])).withdraw

theorem atStage_of_run {site : Site}
    (ran : run (step issuer) (called before site) actions = some s) : AtStage before s := by
  apply run_invariant_of_step (AtStage before) _ ran
  · exact ⟨nofun, fun _ _ => rfl⟩
  · intro current action next holds stepped
    exact holds.step stepped

/-- A step that returns an error is a `?` that leaves. -/
theorem returns_error_cases {error : String} (stepped : s.step issuer action = some next)
    (returned : next.stage = .returned (.error error)) :
    next.passed = s.passed ∧
      (s.stage = .returned (.error error) ∨ s.error? action = some error) := by
  rcases step_cases stepped with ⟨raised, fails, rfl⟩ | ⟨_, advanced⟩
  · cases returned
    exact ⟨rfl, .inr fails⟩
  · rcases advance_cases advanced with ⟨_, passed, same | ⟨_, still⟩⟩ |
      ⟨_, _, _, _, _, rfl⟩ | ⟨_, rfl⟩
    · exact ⟨passed, .inl (same ▸ returned)⟩
    · exact absurd returned (still _)
    · cases returned
    · cases returned

theorem not_abandoned_of_along {site : Site}
    (along : Along (step issuer) Permitted (called before site) actions)
    (ran : run (step issuer) (called before site) actions = some s) : ¬ Abandoned s := by
  apply run_invariant (fun current => ¬ Abandoned current) _ along ran
  · rintro ⟨error, returned, _⟩
    cases returned
  · rintro current action next settled permitted stepped ⟨error, returned, held⟩
    rcases returns_error_cases stepped returned with ⟨passed, already | fails⟩
    · apply settled
      exact ⟨error, already, inserted_congr passed ▸ held⟩
    · rcases permitted with goesOn | empty
      · rw [goesOn] at fails
        cases fails
      · exact held (inserted_congr passed ▸ empty)

theorem Abandoned.step (abandoned : Abandoned s) (stepped : s.step issuer action = some next) :
    Abandoned next := by
  rcases abandoned with ⟨error, returned, held⟩
  rcases step_cases stepped with ⟨_, fails, _⟩ | ⟨_, advanced⟩
  · exact absurd returned (open_of_error fails _)
  · rcases advance_cases advanced with ⟨_, passed, same | ⟨running, _⟩⟩ |
      ⟨_, _, _, placing, _, _⟩ | ⟨cleaning, _⟩
    · exact ⟨error, same ▸ returned, inserted_congr passed ▸ held⟩
    · exact absurd returned (running _)
    · rw [placing] at returned
      cases returned
    · rw [cleaning] at returned
      cases returned

theorem abandoned_of_not_along {site : Site}
    (forbidden : ¬ Along (step issuer) Permitted (called before site) actions)
    (ran : run (step issuer) (called before site) actions = some s) : Abandoned s := by
  refine run_of_not_along (fun _ => True) Abandoned ?_ ?_ ?_ trivial forbidden ran
  · intros
    trivial
  · intro current action next _ abandoned stepped
    exact abandoned.step stepped
  · intro current action next _ refused stepped
    rcases not_or.mp refused with ⟨fails, held⟩
    rcases step_cases stepped with ⟨error, _, rfl⟩ | ⟨goesOn, _⟩
    · exact ⟨error, rfl, held⟩
    · exact absurd goesOn fails

theorem AtStage.withdrawn_iff (atStage : AtStage before s) (returned : s.stage = .returned result) :
    Withdrawn before s ↔ ¬ Abandoned s := by
  cases result with
  | ok =>
      have withdrawn : Withdrawn before s := by
        simpa only [AtStage, returned] using atStage
      refine iff_of_true withdrawn ?_
      rintro ⟨error, failed, _⟩
      rw [returned] at failed
      cases failed
  | error error =>
      have holding : Holding before s := atStage.holding (by simp [returned])
      constructor
      · rintro withdrawn ⟨_, _, held⟩
        rcases List.exists_mem_of_ne_nil _ held with ⟨token, inside⟩
        apply holding.placed token inside
        rw [withdrawn token, if_pos inside]
      · intro settled token
        have empty : s.inserted = [] := by
          by_contra held
          exact settled ⟨error, returned, held⟩
        rw [empty, if_neg List.not_mem_nil]
        apply holding.others
        rw [empty]
        exact List.not_mem_nil

/-- A call clears the store exactly when no `?` leaves it after a token has been placed. -/
theorem withdrawn_iff_no_early_return (issuer : Issuer) (before : ChallengeStore) (site : Site)
    (actions : List Action) (final : Issuance) (result : Except String Unit)
    (ran : run (step issuer) (called before site) actions = some final)
    (returned : final.stage = .returned result) :
    Withdrawn before final ↔ Along (step issuer) Permitted (called before site) actions := by
  rw [(atStage_of_run ran).withdrawn_iff returned]
  constructor
  · intro settled
    by_contra forbidden
    exact settled (abandoned_of_not_along forbidden ran)
  · intro along
    exact not_abandoned_of_along along ran

/-- An account that signs with the key `k`. -/
def issuerK : Issuer :=
  { pki := twins, keyAuthorization := fun challenge => challenge.token ++ ".k".toList
    certPath := Site.renewal.certPath, keyPath := Site.renewal.keyPath }

/-- An order for one name, up to its challenge. -/
def placed : List Action :=
  [.account (.ok ()), .newOrder (.ok ()),
    .authorizations (.ok [⟨[⟨.dns01, "u".toList, "d".toList⟩, ⟨.http01, "u".toList, "t".toList⟩]⟩]),
    .proceed]

/-- The order is ready at once, and the certificate is installed. -/
def issued : List Action :=
  placed ++ [.setChallengeReady (.ok ()), .proceed, .refresh (.ok .ready),
    .generateSelfSigned (.ok ([2], [2]))] ++
  List.replicate 9 (.install (.succeeds 1)) ++ [.proceed, .proceed]

theorem withdrawn_iff_no_early_return_issued :
    ∃ final, run (step issuerK) (called .new Site.installed) issued = some final ∧
      Withdrawn .new final := by
  have ran : ∃ final, run (step issuerK) (called .new Site.installed) issued = some final ∧
      final.stage = .returned (.ok ()) := ⟨_, rfl, rfl⟩
  rcases ran with ⟨final, ran, returned⟩
  have along : Along (step issuerK) Permitted (called .new Site.installed) issued := by decide
  have exactly :=
    withdrawn_iff_no_early_return issuerK .new Site.installed issued final _ ran returned
  exact ⟨final, ran, exactly.mpr along⟩

/-- The directory cannot be told that the challenge is ready: the token stays. -/
theorem token_outlives_order :
    ∃ final, run (step issuerK) (called .new Site.installed)
        (placed ++ [.setChallengeReady (.error "timeout")]) = some final ∧
      final.stage = .returned (.error "set challenge ready: timeout") ∧
      final.store.get "t".toList = some "t.k".toList ∧ ¬ Withdrawn .new final := by
  refine ⟨_, rfl, rfl, rfl, ?_⟩
  intro withdrawn
  cases withdrawn "t".toList

end Issuance

end RustAsgi.Acme
