import Mathlib.Logic.Relation
import RustAsgi.Server.Dispatch

/-!
# The handshake in list headers

`Connection` and `Upgrade` are comma-separated lists, and a list may be spread over
several lines. `is_websocket_upgrade` reads the first line of each, `Connection` as a
list and `Upgrade` as one value.
-/

namespace RustAsgi

/-- The elements of a comma-separated list in lower case, without the whitespace around them. -/
def listTokens (text : Text) : List Text :=
  (text.splitOn ',').map fun part => (Text.trim part).map Char.toLower

namespace HeaderMap

/-- `get_all`: every line of the name. -/
def getAll (headers : HeaderMap) (name : String) : List HeaderValue :=
  headers.filterMap fun header => if header.1 = name then some header.2 else none

/-- The tokens of all lines of the name together. -/
def tokens (headers : HeaderMap) (name : String) : List Text :=
  (headers.getAll name).flatMap fun value => listTokens value.chars

end HeaderMap

def websocketToken : Text :=
  "websocket".toList

def upgradeToken : Text :=
  "upgrade".toList

/-- The two lists ask for the handshake, whatever lines they are spread over. -/
structure AsksUpgrade (headers : HeaderMap) : Prop where
  connection : upgradeToken ∈ headers.tokens "connection"
  upgrade : websocketToken ∈ headers.tokens "upgrade"

/-- The first `Upgrade` line is `websocket` and nothing else, and the first `Connection` line
is visible ASCII and lists `upgrade`. -/
structure LeadsUpgrade (headers : HeaderMap) : Prop where
  upgrade : ∃ line, headers.getStr "upgrade" = some line ∧ line.map Char.toLower = websocketToken
  connection : ∃ line, headers.getStr "connection" = some line ∧ upgradeToken ∈ listTokens line

/-- Another way to write the same lists. -/
inductive Respelling : HeaderMap → HeaderMap → Prop where
  | split {front back : HeaderMap} {name : String} {whole first second : HeaderValue}
      (joined : whole.chars = first.chars ++ ',' :: second.chars) :
      Respelling (front ++ (name, whole) :: back)
        (front ++ (name, first) :: (name, second) :: back)
  | reorder {front back : HeaderMap} {name : String} {value other : HeaderValue}
      (tokens : (listTokens value.chars).Perm (listTokens other.chars)) :
      Respelling (front ++ (name, value) :: back) (front ++ (name, other) :: back)
  | permute {headers other : HeaderMap} (lines : headers.Perm other) : Respelling headers other

section Tokens

variable {headers other : HeaderMap} {name : String}

theorem isWhitespace_of_visible {c : Char} (visible : 32 < c.toNat) :
    Text.isWhitespace c = false := by
  have other : c ≠ ' ' := by
    rintro rfl
    exact absurd visible (by decide)
  simp only [Text.isWhitespace, beq_false_of_ne other, Bool.false_or, Bool.and_eq_false_iff,
    decide_eq_false_iff_not]
  omega

theorem toNat_toLower {c : Char} (upper : c.val ≥ 'A'.val ∧ c.val ≤ 'Z'.val) :
    c.toLower.toNat = c.toNat + 32 := by
  have high : c.toNat ≤ 90 := upper.2
  have shifted : c.toLower.val = c.val + 32 := congrArg Char.val (dif_pos upper)
  change c.toLower.val.toNat = c.val.toNat + 32
  rw [shifted, UInt32.toNat_add]
  apply Nat.mod_eq_of_lt
  change c.toNat + 32 < 2 ^ 32
  omega

theorem isWhitespace_toLower (c : Char) :
    Text.isWhitespace c.toLower = Text.isWhitespace c := by
  by_cases upper : c.val ≥ 'A'.val ∧ c.val ≤ 'Z'.val
  · have low : 65 ≤ c.toNat := upper.1
    have shifted := toNat_toLower upper
    rw [isWhitespace_of_visible (by omega), isWhitespace_of_visible (by omega)]
  · have same : c.toLower = c := dif_neg upper
    rw [same]

theorem trim_map_toLower (text : Text) :
    Text.trim (text.map Char.toLower) = (Text.trim text).map Char.toLower := by
  have same : Text.isWhitespace ∘ Char.toLower = Text.isWhitespace := funext isWhitespace_toLower
  simp only [Text.trim, List.dropWhile_map, same, ← List.map_reverse]

theorem listTokens_join (first second : Text) :
    listTokens (first ++ ',' :: second) = listTokens first ++ listTokens second := by
  simp only [listTokens, List.splitOn_append_cons_self, List.map_append]

/-- A line that is a single token in any case is the list of that token. -/
theorem listTokens_of_single {line token : Text} (lower : line.map Char.toLower = token)
    (single : ',' ∉ token) (trimmed : Text.trim token = token) : listTokens line = [token] := by
  have free : ',' ∉ line := by
    intro member
    apply single
    rw [← lower]
    exact List.mem_map_of_mem (f := Char.toLower) member
  rw [listTokens, List.splitOn_eq_singleton free, List.map_singleton, ← trim_map_toLower, lower,
    trimmed]

theorem tokens_append (front back : HeaderMap) (name : String) :
    (front ++ back).tokens name = front.tokens name ++ back.tokens name := by
  simp only [HeaderMap.tokens, HeaderMap.getAll, List.filterMap_append, List.flatMap_append]

theorem tokens_cons (line : String) (value : HeaderValue) (headers : HeaderMap) (name : String) :
    HeaderMap.tokens ((line, value) :: headers) name =
      (if line = name then listTokens value.chars else []) ++ headers.tokens name := by
  by_cases same : line = name
  · simp [HeaderMap.tokens, HeaderMap.getAll, same]
  · simp [HeaderMap.tokens, HeaderMap.getAll, same]

/-- However the lists are written, they have the same tokens. -/
theorem Respelling.perm (respelt : Respelling headers other) (name : String) :
    (headers.tokens name).Perm (other.tokens name) := by
  cases respelt with
  | @split front back line whole first second joined =>
      simp only [tokens_append, tokens_cons, joined, listTokens_join]
      split
      · rw [List.append_assoc]
      · exact List.Perm.refl _
  | @reorder front back line value other tokens =>
      simp only [tokens_append, tokens_cons]
      apply List.Perm.append_left
      apply List.Perm.append_right
      split
      · exact tokens
      · exact List.Perm.refl _
  | permute lines =>
      exact (lines.filterMap _).flatMap_right _

theorem perm_of_respelt (respelt : Relation.EqvGen Respelling headers other) (name : String) :
    (headers.tokens name).Perm (other.tokens name) := by
  induction respelt with
  | rel _ _ once => exact once.perm name
  | refl => exact List.Perm.refl _
  | symm _ _ _ before => exact before.symm
  | trans _ _ _ _ _ first second => exact first.trans second

theorem AsksUpgrade.respelt (asks : AsksUpgrade headers)
    (respelt : Relation.EqvGen Respelling headers other) : AsksUpgrade other where
  connection := (perm_of_respelt respelt _).mem_iff.mp asks.connection
  upgrade := (perm_of_respelt respelt _).mem_iff.mp asks.upgrade

/-- What is read of a header is among the tokens of its lines. -/
theorem mem_tokens_of_getStr {line token : Text} (read : headers.getStr name = some line)
    (member : token ∈ listTokens line) : token ∈ headers.tokens name := by
  rcases Option.bind_eq_some_iff.mp read with ⟨value, first, readable⟩
  simp only [HeaderValue.toStr, Option.ite_none_right_eq_some, Option.some.injEq] at readable
  rcases readable with ⟨_, rfl⟩
  rcases List.lookup_eq_some_iff.mp first with ⟨front, back, rfl, _⟩
  rw [tokens_append, tokens_cons, if_pos rfl]
  exact List.mem_append_right _ (List.mem_append_left _ member)

theorem LeadsUpgrade.asks (leads : LeadsUpgrade headers) : AsksUpgrade headers := by
  rcases leads with ⟨⟨line, read, lower⟩, ⟨list, readList, member⟩⟩
  refine ⟨mem_tokens_of_getStr readList member, mem_tokens_of_getStr read ?_⟩
  rw [listTokens_of_single lower (by decide) (by decide +kernel)]
  exact List.mem_singleton_self _

end Tokens

/-- The specification of the function. -/
theorem isWebsocketUpgrade_iff_leads {parts : Parts} :
    isWebsocketUpgrade parts = true ↔ LeadsUpgrade parts.headers ∧ parts.method = "GET" := by
  have websocket (line : Text) : Text.eqIgnoreAsciiCase line "websocket".toList = true ↔
      line.map Char.toLower = websocketToken := by
    have lower : "websocket".toList.map Char.toLower = websocketToken := by decide +kernel
    rw [Text.eqIgnoreAsciiCase, lower, beq_iff_eq]
  have listed (line : Text) : ((line.splitOn ',').any fun token =>
      Text.eqIgnoreAsciiCase (Text.trim token) "upgrade".toList) = true ↔
      upgradeToken ∈ listTokens line := by
    have lower : "upgrade".toList.map Char.toLower = upgradeToken := by decide +kernel
    simp only [Text.eqIgnoreAsciiCase, lower, List.any_eq_true, beq_iff_eq, listTokens,
      List.mem_map]
  simp only [isWebsocketUpgrade, Bool.and_eq_true, beq_iff_eq]
  apply and_congr_left
  intro _
  constructor
  · rintro ⟨upgradeOk, connectionOk⟩
    split at upgradeOk
    · rename_i line read
      split at connectionOk
      · rename_i list readList
        exact ⟨⟨line, read, (websocket line).mp upgradeOk⟩,
          ⟨list, readList, (listed list).mp connectionOk⟩⟩
      · cases connectionOk
    · cases upgradeOk
  · rintro ⟨⟨line, read, lower⟩, ⟨list, readList, member⟩⟩
    rw [read, readList]
    exact ⟨(websocket line).mpr lower, (listed list).mpr member⟩

/-- A request is recognised as a handshake whenever its lists ask for one exactly if its first
lines do alone; among such requests, no other way to write the lists changes the answer. -/
theorem isWebsocketUpgrade_iff_asks (parts : Parts) (get : parts.method = "GET") :
    ((isWebsocketUpgrade parts = true ↔ AsksUpgrade parts.headers) ↔
      (AsksUpgrade parts.headers → LeadsUpgrade parts.headers)) ∧
    ∀ other : Parts, other.method = "GET" →
      Relation.EqvGen Respelling parts.headers other.headers →
      (AsksUpgrade parts.headers → LeadsUpgrade parts.headers) →
      (AsksUpgrade other.headers → LeadsUpgrade other.headers) →
        isWebsocketUpgrade parts = isWebsocketUpgrade other := by
  have recognised {parts : Parts} (get : parts.method = "GET") :
      (isWebsocketUpgrade parts = true ↔ AsksUpgrade parts.headers) ↔
        (AsksUpgrade parts.headers → LeadsUpgrade parts.headers) := by
    rw [isWebsocketUpgrade_iff_leads, and_iff_left get]
    constructor
    · intro same
      exact same.mpr
    · intro leads
      exact ⟨LeadsUpgrade.asks, leads⟩
  refine ⟨recognised get, ?_⟩
  intro other getOther respelt leads leadsOther
  rw [Bool.eq_iff_iff, (recognised get).mpr leads, (recognised getOther).mpr leadsOther]
  constructor
  · intro asks
    exact asks.respelt respelt
  · intro asks
    exact asks.respelt (.symm _ _ respelt)

section Spellings

/-- The handshake with the elements of `Connection` the other way round. -/
def reorderedHandshake : Parts :=
  { chatHandshake with
    headers := chatHandshake.headers.take 2 ++
      ("connection", ⟨ascii "Upgrade,keep-alive", List.all_eq_true.mp (by decide +kernel)⟩) ::
        chatHandshake.headers.drop 3 }

theorem reorderedHandshake_respelling :
    Respelling chatHandshake.headers reorderedHandshake.headers :=
  @Respelling.reorder (chatHandshake.headers.take 2) (chatHandshake.headers.drop 3) "connection"
    ⟨ascii "keep-alive, Upgrade", List.all_eq_true.mp (by decide +kernel)⟩
    ⟨ascii "Upgrade,keep-alive", List.all_eq_true.mp (by decide +kernel)⟩
    (List.isPerm_iff.mp (by decide +kernel))

theorem isWebsocketUpgrade_iff_asks_reordered :
    isWebsocketUpgrade chatHandshake = isWebsocketUpgrade reorderedHandshake := by
  have leads : LeadsUpgrade chatHandshake.headers :=
    (isWebsocketUpgrade_iff_leads.mp (by decide +kernel)).1
  have leadsReordered : LeadsUpgrade reorderedHandshake.headers :=
    (isWebsocketUpgrade_iff_leads.mp (by decide +kernel)).1
  exact (isWebsocketUpgrade_iff_asks chatHandshake rfl).2 reorderedHandshake rfl
    (.rel _ _ reorderedHandshake_respelling) (fun _ => leads) (fun _ => leadsReordered)

/-- `Connection` on two lines. -/
def splitHandshake : Parts :=
  { chatHandshake with
    headers := chatHandshake.headers.take 2 ++
      ("connection", ⟨ascii "keep-alive", List.all_eq_true.mp (by decide +kernel)⟩) ::
        ("connection", ⟨ascii "Upgrade", List.all_eq_true.mp (by decide +kernel)⟩) ::
          chatHandshake.headers.drop 3 }

/-- `Upgrade` with a second protocol. -/
def offeringHandshake : Parts :=
  { chatHandshake with
    headers := [
      ("upgrade", ⟨ascii "websocket, h2c", List.all_eq_true.mp (by decide +kernel)⟩),
      ("connection", ⟨ascii "Upgrade", List.all_eq_true.mp (by decide +kernel)⟩)] }

theorem listed_handshakes_missed :
    ¬ (isWebsocketUpgrade splitHandshake = true ↔ AsksUpgrade splitHandshake.headers) ∧
      ¬ (isWebsocketUpgrade offeringHandshake = true ↔
        AsksUpgrade offeringHandshake.headers) := by
  constructor
  · intro same
    have recognised := same.mpr ⟨by decide +kernel, by decide +kernel⟩
    exact absurd recognised (by decide +kernel)
  · intro same
    have recognised := same.mpr ⟨by decide +kernel, by decide +kernel⟩
    exact absurd recognised (by decide +kernel)

end Spellings

end RustAsgi
