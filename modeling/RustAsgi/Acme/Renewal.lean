import Mathlib.Data.List.Infix
import RustAsgi.Acme.Issuance

/-!
# The renewal task

The loop of `RenewalTask::spawn`, one iteration an hour, and its three counters. The
attempt itself is a run of `atomic_install` for a mock directory, and a run of
`try_acme_issuance` for a real one. They are counted in different places: the first
where it succeeds, the second nowhere but where it fails.
-/

namespace RustAsgi.Acme

open Machine Tls Fallible

/-- The counters of `metrics` that the renewal touches. -/
inductive Counter where
  | acmeOrders
  | acmeRenewals
  | acmeRenewalFailures
  deriving DecidableEq, Repr

structure Metrics where
  /-- `RUSTWASGI_PROFILE=1`. -/
  enabled : Bool
  counters : Counter → UInt64

namespace Metrics

def new (enabled : Bool) : Metrics :=
  { enabled, counters := fun _ => 0 }

/-- `metrics::inc`. -/
def inc (metrics : Metrics) (counter : Counter) : Metrics :=
  if metrics.enabled then
    { metrics with
      counters := Function.update metrics.counters counter (metrics.counters counter + 1) }
  else metrics

/-- Every order is counted once as a success or once as a failure. -/
def Balanced (metrics : Metrics) : Prop :=
  metrics.counters .acmeOrders =
    metrics.counters .acmeRenewals + metrics.counters .acmeRenewalFailures

theorem balanced_new (enabled : Bool) : (new enabled).Balanced :=
  rfl

@[simp]
theorem inc_enabled (metrics : Metrics) (counter : Counter) :
    (metrics.inc counter).enabled = metrics.enabled := by
  simp only [inc]
  split <;> rfl

theorem inc_counters {metrics : Metrics} (enabled : metrics.enabled = true)
    (counter other : Counter) :
    (metrics.inc counter).counters other =
      if other = counter then metrics.counters other + 1 else metrics.counters other := by
  simp only [inc, enabled, if_true, Function.update_apply]
  split
  next same => rw [same]
  next => rfl

end Metrics

/-- What the loop reads of its configuration. -/
structure AcmeConfig where
  directoryUrl : Text
  storageDir : String
  renewThresholdDays : UInt64

namespace AcmeConfig

def certPath (config : AcmeConfig) : Path :=
  ⟨config.storageDir, "cert", some "pem"⟩

def keyPath (config : AcmeConfig) : Path :=
  ⟨config.storageDir, "key", some "pem"⟩

/-- A directory for which the loop renews with a certificate of its own. -/
def isMock (config : AcmeConfig) : Bool :=
  Text.contains config.directoryUrl "mock".toList || config.directoryUrl.isEmpty

end AcmeConfig

/-- The crates behind the loop. -/
structure RenewalCrates where
  pki : Pki
  /-- The end of the validity of a certificate in DER, in seconds. -/
  notAfter : Bytes → Except String Int64
  keyAuthorization : Challenge → Text

/-- One iteration: what it finds, and what its calls come to. -/
structure Round where
  config : AcmeConfig
  files : FileSystem
  tls : TlsState
  challenges : ChallengeStore
  now : Int64
  generateSelfSigned : Except String (Bytes × Bytes)
  /-- How the filesystem calls of `atomic_install` end, for a mock directory. -/
  installing : List Outcome
  /-- What happens in `try_acme_issuance`, for a real one. -/
  ordering : List Action

/-- `fs::read`. -/
def readCert : FileRead → Except String Bytes
  | .missing => .error "read cert: No such file or directory (os error 2)"
  | .unopenable source => .error ("read cert: " ++ source)
  | .unreadable reason => .error ("read cert: " ++ reason)
  | .contents bytes => .ok bytes

namespace Round

variable (crates : RenewalCrates) (round : Round)

def certFile : FileRead :=
  (round.files round.config.certPath).read

/-- `should_renew`: the days that remain are rounded towards zero. -/
def shouldRenew : Except String Bool := do
  let data ← readCert round.certFile
  let certs ← (crates.pki.certs data).mapError ("parse cert: " ++ ·)
  let first ← okOr certs.head? "no cert"
  let notAfter ← (crates.notAfter first).mapError ("x509 parse: " ++ ·)
  let days := (notAfter - round.now) / 86400
  .ok (decide (days < round.config.renewThresholdDays.toInt64))

/-- A certificate that cannot be checked is renewed. -/
def needsRenewal : Bool :=
  if round.certFile = .missing then true
  else
    match round.shouldRenew crates with
    | .ok renew => renew
    | .error _ => true

/-- `renew_self_signed`. -/
def renewSelfSigned (metrics : Metrics) : Option (Metrics × Except String Unit) :=
  match round.generateSelfSigned with
  | .error e => some (metrics, .error e)
  | .ok (certPem, keyPem) =>
      let call := { certPem, keyPem, certPath := round.config.certPath,
                    keyPath := round.config.keyPath }
      let site := { files := round.files, tls := round.tls, install := .validate }
      (run (Site.step crates.pki call) site round.installing).bind fun site =>
        match site.install with
        | .returned _ (.ok ()) => some (metrics.inc .acmeRenewals, .ok ())
        | .returned _ (.error e) => some (metrics, .error e)
        | _ => none

/-- `try_acme_issuance`, to its end. -/
def tryAcmeIssuance : Option (Except String Unit) :=
  let issuer := { pki := crates.pki, keyAuthorization := crates.keyAuthorization
                  certPath := round.config.certPath, keyPath := round.config.keyPath }
  let site := { files := round.files, tls := round.tls, install := .validate }
  (run (Issuance.step issuer) (Issuance.called round.challenges site) round.ordering).bind
    fun issuance =>
      match issuance.stage with
      | .returned result => some result
      | _ => none

/-- The attempt of an iteration, and what it counts by itself. -/
def attempt (metrics : Metrics) : Option (Metrics × Except String Unit) :=
  if round.config.isMock then round.renewSelfSigned crates metrics
  else
    (round.tryAcmeIssuance crates).map fun result =>
      match result with
      | .ok () => (metrics, .ok ())
      | .error e => (metrics.inc .acmeRenewalFailures, .error e)

end Round

/-- An iteration of the loop that comes to its end. -/
def iterate (crates : RenewalCrates) (metrics : Metrics) (round : Round) : Option Metrics :=
  if round.needsRenewal crates then
    (round.attempt crates (metrics.inc .acmeOrders)).map fun (metrics, result) =>
      match result with
      | .ok () => metrics
      | .error _ => metrics.inc .acmeRenewalFailures
  else some metrics

/-- A real directory is asked for a certificate. -/
def Round.OrdersReal (crates : RenewalCrates) (round : Round) : Prop :=
  round.needsRenewal crates = true ∧ round.config.isMock = false

/-- Everything an iteration can do to the counters. -/
inductive Iterated (crates : RenewalCrates) (metrics : Metrics) (round : Round) :
    Metrics → Prop where
  | idle (valid : round.needsRenewal crates = false) : Iterated crates metrics round metrics
  | renewed (mock : round.config.isMock = true) :
      Iterated crates metrics round ((metrics.inc .acmeOrders).inc .acmeRenewals)
  | failed (mock : round.config.isMock = true) :
      Iterated crates metrics round ((metrics.inc .acmeOrders).inc .acmeRenewalFailures)
  | issued (real : round.OrdersReal crates) :
      Iterated crates metrics round (metrics.inc .acmeOrders)
  | refused (real : round.OrdersReal crates) :
      Iterated crates metrics round
        (((metrics.inc .acmeOrders).inc .acmeRenewalFailures).inc .acmeRenewalFailures)

variable {crates : RenewalCrates} {metrics next final : Metrics} {round : Round}
  {rounds : List Round} {result : Except String Unit}

theorem renewSelfSigned_cases
    (renewed : round.renewSelfSigned crates metrics = some (next, result)) :
    (next = metrics.inc .acmeRenewals ∧ result = .ok ()) ∨
      (next = metrics ∧ ∃ e, result = .error e) := by
  simp only [Round.renewSelfSigned] at renewed
  split at renewed
  next e _ =>
    cases renewed
    exact .inr ⟨rfl, e, rfl⟩
  next =>
    rcases Option.bind_eq_some_iff.mp renewed with ⟨site, _, returned⟩
    split at returned
    · cases returned
      exact .inl ⟨rfl, rfl⟩
    · rename_i e _
      cases returned
      exact .inr ⟨rfl, e, rfl⟩
    · cases returned

theorem iterate_cases (iterated : iterate crates metrics round = some next) :
    Iterated crates metrics round next := by
  simp only [iterate] at iterated
  split at iterated
  · rename_i needs
    rcases Option.map_eq_some_iff.mp iterated with ⟨⟨counted, result⟩, attempted, rfl⟩
    simp only [Round.attempt] at attempted
    split at attempted
    · rename_i mock
      rcases renewSelfSigned_cases attempted with ⟨rfl, rfl⟩ | ⟨rfl, e, rfl⟩
      · exact .renewed mock
      · exact .failed mock
    · rename_i other
      have real : round.OrdersReal crates := ⟨needs, Bool.eq_false_iff.mpr other⟩
      rcases Option.map_eq_some_iff.mp attempted with ⟨outcome, _, counted⟩
      cases outcome with
      | ok =>
          cases counted
          exact .issued real
      | error e =>
          cases counted
          exact .refused real
  · rename_i valid
    cases iterated
    exact .idle (Bool.eq_false_iff.mpr valid)

theorem Iterated.enabled (iterated : Iterated crates metrics round next) :
    next.enabled = metrics.enabled := by
  cases iterated <;> simp

theorem Iterated.balanced (iterated : Iterated crates metrics round next)
    (enabled : metrics.enabled = true) (balanced : metrics.Balanced)
    (simulated : ¬ round.OrdersReal crates) : next.Balanced := by
  simp only [Metrics.Balanced] at balanced ⊢
  cases iterated with
  | idle => exact balanced
  | renewed =>
      simp only [Metrics.inc_counters, Metrics.inc_enabled, enabled, reduceCtorEq,
        if_true, if_false, balanced]
      grind
  | failed =>
      simp only [Metrics.inc_counters, Metrics.inc_enabled, enabled, reduceCtorEq,
        if_true, if_false, balanced]
      grind
  | issued real => exact absurd real simulated
  | refused real => exact absurd real simulated

/-- A success at a real directory is not counted, and a failure there is counted twice. -/
theorem Iterated.not_balanced (iterated : Iterated crates metrics round next)
    (enabled : metrics.enabled = true) (balanced : metrics.Balanced)
    (real : round.OrdersReal crates) : ¬ next.Balanced := by
  simp only [Metrics.Balanced] at balanced ⊢
  cases iterated with
  | idle valid =>
      have needs := real.1
      rw [valid] at needs
      cases needs
  | renewed mock | failed mock =>
      have other := real.2
      rw [mock] at other
      cases other
  | issued =>
      simp only [Metrics.inc_counters, enabled, reduceCtorEq, if_true, if_false, balanced]
      grind
  | refused =>
      simp only [Metrics.inc_counters, Metrics.inc_enabled, enabled, reduceCtorEq,
        if_true, if_false, balanced]
      grind

theorem enabled_of_run (enabled : metrics.enabled = true)
    (ran : run (iterate crates) metrics rounds = some final) : final.enabled = true := by
  apply run_invariant_of_step (fun current : Metrics => current.enabled = true) _ ran enabled
  intro current round next enabled iterated
  rw [(iterate_cases iterated).enabled]
  exact enabled

theorem balanced_of_run (enabled : metrics.enabled = true) (balanced : metrics.Balanced)
    (simulated : ∀ round ∈ rounds, ¬ round.OrdersReal crates)
    (ran : run (iterate crates) metrics rounds = some final) : final.Balanced := by
  have along : Along (iterate crates) (fun _ round => ¬ round.OrdersReal crates) metrics rounds :=
    along_of_forall fun round member _ => simulated round member
  have kept : final.enabled = true ∧ final.Balanced := by
    apply run_invariant (fun current : Metrics => current.enabled = true ∧ current.Balanced) _
      along ran ⟨enabled, balanced⟩
    rintro current round next ⟨enabled, balanced⟩ simulated iterated
    have happened := iterate_cases iterated
    exact ⟨happened.enabled.trans enabled, happened.balanced enabled balanced simulated⟩
  exact kept.2

/-- The counters balance after every iteration exactly when no real directory is ever asked. -/
theorem balanced_iff_simulated (crates : RenewalCrates)
    (ran : run (iterate crates) (.new true) rounds = some final) :
    (∀ front reached, front <+: rounds → run (iterate crates) (.new true) front = some reached →
      reached.Balanced) ↔ ∀ round ∈ rounds, ¬ round.OrdersReal crates := by
  constructor
  · intro always round member real
    rcases List.append_of_mem member with ⟨front, back, rfl⟩
    rw [run_append, Option.bind_eq_some_iff] at ran
    rcases ran with ⟨before, ranFront, ranBack⟩
    rcases run_cons_eq_some.mp ranBack with ⟨after, iterated, _⟩
    have balanced := always front before (List.prefix_append _ _) ranFront
    have ranThrough : run (iterate crates) (.new true) (front ++ [round]) = some after := by
      rw [run_append, ranFront, Option.bind_some, run_cons, iterated]
      rfl
    have longer : front ++ [round] <+: front ++ round :: back :=
      (List.prefix_append_right_inj front).mpr ⟨back, rfl⟩
    exact (iterate_cases iterated).not_balanced (enabled_of_run rfl ranFront) balanced real
      (always _ after longer ranThrough)
  · intro simulated front reached shorter ranFront
    apply balanced_of_run rfl (Metrics.balanced_new true) _ ranFront
    intro round member
    exact simulated round (shorter.mem member)

section Rounds

/-- Certificates that have all expired, and an account that signs with the key `k`. -/
def expired : RenewalCrates where
  pki := twins
  notAfter := fun _ => .ok 0
  keyAuthorization := fun challenge => challenge.token ++ ".k".toList

/-- An iteration for a directory, over the certificate that is installed. -/
def roundAt (directoryUrl : String) (installing : List Outcome) (ordering : List Action) :
    Round where
  config := { directoryUrl := directoryUrl.toList, storageDir := "acme", renewThresholdDays := 30 }
  files := Site.installed.files
  tls := Site.installed.tls
  challenges := .new
  now := 1767225600
  generateSelfSigned := .ok ([2], [2])
  installing
  ordering

/-- A renewal for a mock directory, and one that finds the disk full. -/
def mockRounds : List Round :=
  [roundAt "https://mock/directory" (List.replicate 9 (.succeeds 1)) [],
    roundAt "https://mock/directory" [.succeeds 1, .fails "No space left on device" missing] []]

theorem balanced_iff_simulated_mock :
    ∃ final, run (iterate expired) (.new true) mockRounds = some final ∧
      final.counters .acmeOrders = 2 ∧ final.Balanced := by
  have ran : ∃ final, run (iterate expired) (.new true) mockRounds = some final ∧
      final.counters .acmeOrders = 2 := ⟨_, rfl, rfl⟩
  rcases ran with ⟨final, ran, orders⟩
  have simulated : ∀ round ∈ mockRounds, ¬ round.OrdersReal expired := by
    intro round member real
    have mock : mockRounds.all (fun round => round.config.isMock) = true := by decide +kernel
    have isMock := List.all_eq_true.mp mock round member
    rw [real.2] at isMock
    cases isMock
  exact ⟨final, ran, orders,
    (balanced_iff_simulated expired ran).mpr simulated mockRounds final List.prefix_rfl ran⟩

/-- An order that is fulfilled is no renewal, and one that is not is two failures. -/
theorem real_orders_unbalanced :
    (∃ final, run (iterate expired) (.new true)
        [roundAt "https://acme-v02.api.letsencrypt.org/directory" [] Issuance.issued] = some final ∧
      final.counters .acmeOrders = 1 ∧ final.counters .acmeRenewals = 0 ∧
      final.counters .acmeRenewalFailures = 0 ∧ ¬ final.Balanced) ∧
    ∃ final, run (iterate expired) (.new true)
        [roundAt "https://acme-v02.api.letsencrypt.org/directory" []
          [.account (.error "failed to create ACME account: timeout")]] = some final ∧
      final.counters .acmeOrders = 1 ∧ final.counters .acmeRenewals = 0 ∧
      final.counters .acmeRenewalFailures = 2 ∧ ¬ final.Balanced := by
  constructor
  · refine ⟨_, rfl, rfl, rfl, rfl, ?_⟩
    intro balanced
    cases balanced
  · refine ⟨_, rfl, rfl, rfl, rfl, ?_⟩
    intro balanced
    cases balanced

end Rounds

end RustAsgi.Acme
