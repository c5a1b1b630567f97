import RustAsgi.Server.Dispatch

/-!
# Answers to HTTP-01 challenges

`handle_http` strips the path of a challenge and looks the rest up in the store.
What it finds is what the calls on the store have made of it, up to the lookup.
-/

namespace RustAsgi

open Machine Tls

section Answers

variable (calls : List StoreCall) (parts : Parts) (auth : Text)

/-- The path names a token that was last inserted with this authorization. -/
def Names : Prop :=
  ∃ token, parts.uri.path = challengePath ++ token ∧ IsToken token ∧
    lastWrite token calls = some (.insert token auth)

/-- A decision about a request that is no upgrade, after these calls on the store. -/
structure AnswersChallenges (store : ChallengeStore) (dispatched : Option Dispatch) : Prop where
  found : ∀ auth, (∃ reply, dispatched = some (.answered reply) ∧ reply.status = 200 ∧
    reply.body = auth) ↔ Names calls parts auth
  missing : IsChallenge parts → (∀ auth, ¬ Names calls parts auth) →
    ∃ reply, dispatched = some (.answered reply) ∧ reply.status = 404
  uninvoked : IsChallenge parts → ∀ dispatch, dispatched = some dispatch → dispatch.Uninvoked
  tokens : ∀ entry ∈ store.inner, IsToken entry.1

end Answers

variable {state : AppState} {serverHost : Text} {isTls : Bool} {parts : Parts} {body : Incoming}
  {calls : List StoreCall} {auth token : Text}

theorem redirectToHttps_status {reply : HttpReply}
    (redirected : redirectToHttps serverHost parts = some reply) : reply.status ≠ 200 := by
  rw [redirectToHttps_eq] at redirected
  split at redirected
  · rcases statusResponse_eq 400 "Bad Request" with ⟨refusal, built, status⟩
    rw [built, Option.some.injEq] at redirected
    rw [← redirected, status]
    decide
  · simp only [buildReply, Option.ite_none_right_eq_some, Option.some.injEq] at redirected
    rw [← redirected.2]
    nofun

theorem names_iff (follows : Follows state.challengeStore calls)
    (under : parts.uri.path = challengePath ++ token) :
    Names calls parts auth ↔ state.challengeStore.get token = some auth := by
  rw [follows.found token auth]
  constructor
  · rintro ⟨other, path, isToken, written⟩
    rw [under] at path
    rw [List.append_cancel_left path]
    exact ⟨isToken, written⟩
  · rintro ⟨isToken, written⟩
    exact ⟨token, under, isToken, written⟩

theorem handleHttp_of_challenge (under : parts.uri.path = challengePath ++ token) :
    handleHttp state serverHost isTls parts body =
      (answerChallenge state.challengeStore token).map .answered := by
  rw [handleHttp, stripLeading_eq_some.mpr under]

theorem answersChallenges_of_under (follows : Follows state.challengeStore calls)
    (under : parts.uri.path = challengePath ++ token) :
    AnswersChallenges calls parts state.challengeStore
      (handleHttp state serverHost isTls parts body) := by
  rw [handleHttp_of_challenge under]
  cases found : state.challengeStore.get token with
  | some stored =>
      rcases answerChallenge_of_stored found with ⟨reply, built, status, content⟩
      have names := (names_iff follows under).mpr found
      rw [built, Option.map_some]
      refine ⟨?_, ?_, ?_, follows.tokens⟩
      · intro auth
        rw [names_iff follows under, found]
        constructor
        · rintro ⟨other, same, _, rfl⟩
          cases same
          rw [content]
        · intro same
          exact ⟨reply, rfl, status, content.trans (Option.some.inj same)⟩
      · intro _ unnamed
        exact absurd names (unnamed stored)
      · intro _ dispatch dispatched
        cases dispatched
        exact uninvoked_of_answered
  | none =>
      rcases answerChallenge_of_missing found with ⟨reply, built, status⟩
      rw [built, Option.map_some]
      refine ⟨?_, fun _ _ => ⟨reply, rfl, status⟩, ?_, follows.tokens⟩
      · intro auth
        rw [names_iff follows under, found]
        refine iff_of_false ?_ nofun
        rintro ⟨other, same, other_status, _⟩
        cases same
        rw [status] at other_status
        cases other_status
      · intro _ dispatch dispatched
        cases dispatched
        exact uninvoked_of_answered

theorem answersChallenges_of_other (follows : Follows state.challengeStore calls)
    (other : ¬ IsChallenge parts) :
    AnswersChallenges calls parts state.challengeStore
      (handleHttp state serverHost isTls parts body) := by
  refine ⟨?_, fun under => absurd under other, fun under => absurd under other, follows.tokens⟩
  intro auth
  apply iff_of_false
  · rintro ⟨reply, answered, status, _⟩
    simp only [handleHttp, stripLeading_eq_none.mpr other] at answered
    split at answered
    · simp only [Option.map_eq_some_iff, Dispatch.answered.injEq, exists_eq_right] at answered
      exact redirectToHttps_status answered status
    · cases answered
  · rintro ⟨token, path, _⟩
    apply other
    rw [IsChallenge, path]
    exact List.prefix_append _ _

/-- Whatever calls there have been on the store, however they overlapped: a request that is no
upgrade is answered from what they have left there for its token, and with 404 under the path of
the challenges otherwise. -/
theorem challenges_answered {s : SharedStore} {actions : List SharedStore.Action}
    (ran : run SharedStore.step .new actions = some s) (state : AppState) (serverHost : Text)
    (isTls : Bool) (parts : Parts) (body : Incoming) (plain : isWebsocketUpgrade parts = false) :
    AnswersChallenges (trace SharedStore.step SharedStore.locked .new actions) parts s.store
      (handleRequest { state with challengeStore := s.store } serverHost isTls parts body) := by
  have follows : Follows { state with challengeStore := s.store : AppState }.challengeStore
      (trace SharedStore.step SharedStore.locked .new actions) := follows_of_run ran
  rw [handleRequest_of_not_upgrade plain]
  by_cases challenge : IsChallenge parts
  · rcases challenge with ⟨token, under⟩
    exact answersChallenges_of_under follows under.symm
  · exact answersChallenges_of_other follows challenge

def placed : List SharedStore.Action :=
  [.call (.insert "tok_1".toList "tok_1.print".toList), .call (.remove "tok-2".toList), .lock 1,
    .lock 0]

def challengeRequest : Parts where
  method := "GET"
  uri := {
    path := "/.well-known/acme-challenge/tok_1".toList
    query := none
    legalPath := List.all_eq_true.mp (by decide +kernel)
    legalQuery := Uri.legalQuery_none }
  headers := []

/-- Two calls overlap, and the later one has the lock first. -/
theorem challenges_answered_placed :
    ∃ s, run SharedStore.step .new placed = some s ∧
      ∃ reply, handleRequest { redirecting with challengeStore := s.store } "127.0.0.1".toList false
          challengeRequest (.new [] false) = some (.answered reply) ∧
        reply.status = 200 ∧ reply.body = "tok_1.print".toList := by
  have ran : ∃ s, run SharedStore.step .new placed = some s := ⟨_, rfl⟩
  rcases ran with ⟨s, ran⟩
  have plain : isWebsocketUpgrade challengeRequest = false := by decide +kernel
  have answers := challenges_answered ran redirecting "127.0.0.1".toList false challengeRequest
    (.new [] false) plain
  refine ⟨s, ran, (answers.found _).mpr ⟨"tok_1".toList, rfl, ?_, ?_⟩⟩
  · exact isValidToken_iff.mp (by decide +kernel)
  · decide +kernel

end RustAsgi
