import RustAsgi.Http.Message

/-!
# The challenge store

`tls/challenge.rs`: the authorizations of the HTTP-01 challenges under way, by token.
The map is behind a lock, which a call takes once. Calls of different tasks can
overlap, but what they do to the map they do one after the other.
-/

namespace RustAsgi.Tls

open Machine

/-- The token is base64url, and not too long. -/
def isValidToken (token : Text) : Bool :=
  if token = [] ∨ 128 < Text.byteLength token then false
  else if '/' ∈ token ∨ '\\' ∈ token ∨ Text.contains token "..".toList = true then false
  else token.all fun c => c.isAlphanum || c == '-' || c == '_'

/-- The map lists the latest insertion first. -/
structure ChallengeStore where
  inner : List (Text × Text)
  deriving DecidableEq, Repr

namespace ChallengeStore

def new : ChallengeStore :=
  { inner := [] }

def get (store : ChallengeStore) (token : Text) : Option Text :=
  if isValidToken token then store.inner.lookup token else none

def remove (store : ChallengeStore) (token : Text) : ChallengeStore :=
  { store with inner := store.inner.filter fun entry => entry.1 != token }

/-- An invalid token is rejected with a warning. -/
def insert (store : ChallengeStore) (token auth : Text) : ChallengeStore :=
  if isValidToken token then
    { store with inner := (token, auth) :: (store.remove token).inner }
  else store

end ChallengeStore

/-- A call on the store. -/
inductive StoreCall where
  | insert (token auth : Text)
  | get (token : Text)
  | remove (token : Text)
  deriving DecidableEq, Repr

namespace StoreCall

/-- What the call does to the map while it has the lock. -/
def apply (store : ChallengeStore) : StoreCall → ChallengeStore
  | .insert token auth => store.insert token auth
  | .get _ => store
  | .remove token => store.remove token

def writes (token : Text) : StoreCall → Bool
  | .insert other _ | .remove other => decide (other = token)
  | .get _ => false

end StoreCall

/-- The last insertion or removal of the token. -/
def lastWrite (token : Text) (calls : List StoreCall) : Option StoreCall :=
  (calls.filter (StoreCall.writes token)).getLast?

/-- The store with the calls that wait for its lock. -/
structure SharedStore where
  store : ChallengeStore
  waiting : List StoreCall
  deriving DecidableEq, Repr

namespace SharedStore

def new : SharedStore :=
  { store := .new, waiting := [] }

inductive Action where
  | call (call : StoreCall)
  /-- One of the waiting calls gets the lock, does its work and returns. -/
  | lock (index : ℕ)
  deriving DecidableEq, Repr

def step (s : SharedStore) : Action → Option SharedStore
  | .call call => some { s with waiting := s.waiting ++ [call] }
  | .lock index =>
      s.waiting[index]?.map fun call =>
        { store := call.apply s.store, waiting := s.waiting.eraseIdx index }

/-- The call that an action lets have the lock. -/
def locked (s : SharedStore) : Action → List StoreCall
  | .call _ => []
  | .lock index => s.waiting[index]?.toList

end SharedStore

/-- A character of base64url. -/
def TokenChar (c : Char) : Prop :=
  ('A' ≤ c ∧ c ≤ 'Z') ∨ ('a' ≤ c ∧ c ≤ 'z') ∨ ('0' ≤ c ∧ c ≤ '9') ∨ c = '_' ∨ c = '-'

instance (c : Char) : Decidable (TokenChar c) :=
  inferInstanceAs (Decidable (_ ∨ _))

/-- The grammar of the tokens. -/
structure IsToken (token : Text) : Prop where
  nonempty : 1 ≤ token.length
  short : token.length ≤ 128
  chars : ∀ c ∈ token, TokenChar c

section Grammar

variable {c : Char} {token : Text}

theorem tokenChar_iff : (c.isAlphanum || c == '-' || c == '_') = true ↔ TokenChar c := by
  have ranges : c.isAlphanum =
      (decide ('A'.val ≤ c.val ∧ c.val ≤ 'Z'.val) || ('a'.val ≤ c.val && c.val ≤ 'z'.val) ||
        ('0'.val ≤ c.val && c.val ≤ '9'.val)) := rfl
  simp only [ranges, TokenChar, Bool.or_eq_true, Bool.and_eq_true, decide_eq_true_eq, beq_iff_eq,
    Char.le_def]
  tauto

theorem TokenChar.ascii (valid : TokenChar c) : c.utf8Size = 1 := by
  rw [Char.utf8Size_eq_one_iff]
  have small : c.val.toNat ≤ 127 := by
    rcases valid with ⟨_, high⟩ | ⟨_, high⟩ | ⟨_, high⟩ | rfl | rfl
    · exact le_trans high (by decide)
    · exact le_trans high (by decide)
    · exact le_trans high (by decide)
    · decide
    · decide
  exact small

theorem byteLength_of_chars (chars : ∀ c ∈ token, TokenChar c) :
    Text.byteLength token = token.length := by
  have summed : ∀ (text : Text) (bytes : ℕ), (∀ c ∈ text, TokenChar c) →
      text.foldl (fun bytes c => bytes + c.utf8Size) bytes = bytes + text.length := by
    intro text
    induction text with
    | nil => simp
    | cons c text ih =>
        intro bytes all
        rw [List.foldl_cons, ih _ fun c member => all c (List.mem_cons_of_mem _ member),
          (all c List.mem_cons_self).ascii, List.length_cons]
        omega
  rw [Text.byteLength, summed token 0 chars, Nat.zero_add]

/-- The checks for separators and dots refuse nothing that the grammar has. -/
theorem isValidToken_iff : isValidToken token = true ↔ IsToken token := by
  simp only [isValidToken]
  constructor
  · intro valid
    split at valid
    next => cases valid
    next sized =>
      split at valid
      next => cases valid
      next =>
        have chars : ∀ c ∈ token, TokenChar c := by
          intro c member
          exact tokenChar_iff.mp (List.all_eq_true.mp valid c member)
        rw [byteLength_of_chars chars, not_or] at sized
        exact ⟨List.length_pos_iff.mpr sized.1, Nat.le_of_not_lt sized.2, chars⟩
  · intro valid
    have absent (c : Char) (other : ¬ TokenChar c) : c ∉ token :=
      fun member => other (valid.chars c member)
    rw [if_neg, if_neg, List.all_eq_true]
    · intro c member
      exact tokenChar_iff.mpr (valid.chars c member)
    · rintro (slash | backslash | dots)
      · exact absent '/' (by decide) slash
      · exact absent '\\' (by decide) backslash
      · have inside := of_decide_eq_true dots
        exact absent '.' (by decide) (inside.subset (by decide))
    · rw [byteLength_of_chars valid.chars, not_or]
      exact ⟨List.length_pos_iff.mp valid.nonempty, Nat.not_lt.mpr valid.short⟩

end Grammar

namespace ChallengeStore

variable {store : ChallengeStore} {token other auth : Text}

theorem lookup_remove (entries : List (Text × Text)) :
    (entries.filter fun entry => entry.1 != token).lookup other =
      if other = token then none else entries.lookup other := by
  induction entries with
  | nil => simp
  | cons entry rest ih =>
      by_cases dropped : entry.1 = token
      · rw [List.filter_cons_of_neg (by simp [dropped]), ih, List.lookup_cons]
        split
        · rfl
        · rename_i different
          have apart : (other == entry.1) = false := by
            rw [dropped, beq_eq_false_iff_ne]
            exact different
          rw [apart]
      · rw [List.filter_cons_of_pos (by simpa using dropped), List.lookup_cons, List.lookup_cons,
          ih]
        split
        · rename_i same
          have found : other ≠ token := by
            rw [beq_iff_eq.mp same]
            exact dropped
          rw [if_neg found]
        · rfl

@[simp]
theorem get_remove : (store.remove token).get other =
    if other = token then none else store.get other := by
  simp only [get, remove, lookup_remove]
  split <;> split <;> rfl

@[simp]
theorem get_insert : (store.insert token auth).get other =
    if other = token ∧ isValidToken token = true then some auth else store.get other := by
  simp only [insert]
  split
  next valid =>
    simp only [get, remove, List.lookup_cons, lookup_remove, valid, and_true]
    by_cases same : other = token
    · simp [same, valid]
    · have apart : (other == token) = false := beq_eq_false_iff_ne.mpr same
      simp [same, apart]
  next invalid => rw [if_neg fun both => invalid both.2]

theorem get_of_invalid (invalid : isValidToken token = false) : store.get token = none := by
  simp [get, invalid]

end ChallengeStore

section Calls

variable {token auth : Text} {calls : List StoreCall} {call : StoreCall}

theorem lastWrite_append_of_writes (writes : call.writes token = true) :
    lastWrite token (calls ++ [call]) = some call := by
  simp [lastWrite, List.filter_append, writes]

theorem lastWrite_append_of_not_writes (silent : call.writes token = false) :
    lastWrite token (calls ++ [call]) = lastWrite token calls := by
  simp [lastWrite, List.filter_append, silent]

/-- The store is the map that the calls describe: a token has the authorization of its last
insertion, unless it has been removed since. -/
structure Follows (store : ChallengeStore) (calls : List StoreCall) : Prop where
  found : ∀ token auth, store.get token = some auth ↔
    IsToken token ∧ lastWrite token calls = some (.insert token auth)
  tokens : ∀ entry ∈ store.inner, IsToken entry.1

theorem follows_new : Follows .new [] where
  found := by simp [ChallengeStore.new, ChallengeStore.get, lastWrite]
  tokens := by simp [ChallengeStore.new]

theorem Follows.apply {store : ChallengeStore} (follows : Follows store calls) (call : StoreCall) :
    Follows (call.apply store) (calls ++ [call]) where
  found := by
    intro token auth
    cases writes : call.writes token with
    | false =>
        rw [lastWrite_append_of_not_writes writes, ← follows.found token auth]
        cases call with
        | get => rfl
        | insert other auth' =>
            have apart : token ≠ other := Ne.symm (of_decide_eq_false writes)
            rw [StoreCall.apply, ChallengeStore.get_insert, if_neg fun both => apart both.1]
        | remove other =>
            have apart : token ≠ other := Ne.symm (of_decide_eq_false writes)
            rw [StoreCall.apply, ChallengeStore.get_remove, if_neg apart]
    | true =>
        rw [lastWrite_append_of_writes writes]
        cases call with
        | get => cases writes
        | insert other auth' =>
            have same : other = token := of_decide_eq_true writes
            subst same
            rw [StoreCall.apply, ChallengeStore.get_insert]
            by_cases valid : isValidToken other = true
            · simp [valid, isValidToken_iff.mp valid]
            · have invalid := Bool.eq_false_iff.mpr valid
              have other_ : ¬ IsToken other := fun isToken => valid (isValidToken_iff.mpr isToken)
              simp [invalid, other_, ChallengeStore.get_of_invalid invalid]
        | remove other =>
            have same : other = token := of_decide_eq_true writes
            subst same
            simp [StoreCall.apply]
  tokens := by
    intro entry member
    cases call with
    | get => exact follows.tokens entry member
    | remove other => exact follows.tokens entry (List.mem_filter.mp member).1
    | insert other auth =>
        simp only [StoreCall.apply, ChallengeStore.insert] at member
        split at member
        next valid =>
          rcases List.mem_cons.mp member with rfl | kept
          · exact isValidToken_iff.mp valid
          · exact follows.tokens entry (List.mem_filter.mp kept).1
        next => exact follows.tokens entry member

/-- However the calls overlap, the store follows them in the order in which they have had the
lock. -/
theorem follows_of_run {s : SharedStore} {actions : List SharedStore.Action}
    (ran : run SharedStore.step .new actions = some s) :
    Follows s.store (trace SharedStore.step SharedStore.locked .new actions) := by
  have preserved : ∀ current action next calls, Follows current.store calls →
      SharedStore.step current action = some next →
      Follows next.store (calls ++ SharedStore.locked current action) := by
    intro current action next calls follows stepped
    cases action with
    | call call =>
        cases Option.some.inj stepped
        simpa [SharedStore.locked] using follows
    | lock index =>
        simp only [SharedStore.step, Option.map_eq_some_iff] at stepped
        rcases stepped with ⟨call, waiting, rfl⟩
        simp only [SharedStore.locked, waiting, Option.toList_some]
        exact follows.apply call
  have follows := trace_invariant (fun current calls => Follows current.store calls) preserved ran
    follows_new
  rwa [List.nil_append] at follows

end Calls

end RustAsgi.Tls
