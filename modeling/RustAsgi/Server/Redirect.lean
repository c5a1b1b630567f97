import RustAsgi.Net.Url
import RustAsgi.Server.Dispatch

/-!
# The target of the redirect

A plain request is sent to the same resource over HTTPS. The location is put together
from the `Host` header, or the address of the listener when there is none, and from
the path and the query of the request. Nothing of the host is looked at but line
breaks and spaces.
-/

namespace RustAsgi

/-- What `http::Uri` has cut at is not in its parts, and it has dropped a fragment. -/
structure Uri.Delimited (uri : Uri) : Prop where
  path : '?' ∉ uri.path ∧ '#' ∉ uri.path
  query : ∀ query ∈ uri.query, '#' ∉ query

/-- The host that the client has asked for, or the address that it is connected to. -/
def requestHost (serverHost : Text) (parts : Parts) : Text :=
  match parts.headers.get "host" with
  | some value => value.chars
  | none => serverHost

/-- The resource of the request over HTTPS. -/
def secureUrl (serverHost : Text) (parts : Parts) : Net.Url :=
  { scheme := "https".toList, authority := requestHost serverHost parts, path := parts.uri.path,
    query := parts.uri.query, fragment := none }

/-- A permanent redirect to the URL is the answer. -/
def RedirectsTo (url : Net.Url) (dispatch : Option Dispatch) : Prop :=
  ∃ reply location, dispatch = some (.answered reply) ∧ reply.status = 308 ∧
    reply.headers.lookup "location" = some location ∧ Net.Url.parse location = some url

/-- The request comes to the redirect, which does not refuse it for its host. -/
structure ReachesRedirect (state : AppState) (serverHost : Text) (isTls : Bool) (parts : Parts) :
    Prop where
  plain : IsPlain state isTls
  resource : ¬ IsChallenge parts
  http : isWebsocketUpgrade parts = false
  unrefused : ¬ (redirectHost serverHost parts = [] ∨ ' ' ∈ redirectHost serverHost parts)

section Hosts

variable {serverHost text : Text} {parts : Parts}

theorem firstLine_of_visible (visible : ∀ c ∈ text, 32 < c.toNat) : firstLine text = text := by
  apply List.takeWhile_eq_self_iff.mpr
  intro c member
  have above := visible c member
  simp only [Bool.and_eq_true, decide_eq_true_eq]
  constructor
  · rintro rfl
    exact absurd above (by decide)
  · rintro rfl
    exact absurd above (by decide)

theorem toStr_of_visible {value : HeaderValue}
    (visible : ∀ c ∈ value.chars, 32 < c.toNat ∧ c.toNat < 127) :
    value.toStr = some value.chars := by
  apply if_pos
  apply List.all_eq_true.mpr
  intro byte member
  have within := visible _ (List.mem_map_of_mem member)
  rw [toNat_ofByte] at within
  simp only [Bool.or_eq_true, Bool.and_eq_true, decide_eq_true_eq, UInt8.le_iff_toNat_le,
    UInt8.lt_iff_toNat_lt]
  right
  exact ⟨Nat.le_of_lt within.1, within.2⟩

/-- A visible host is taken as it is. -/
theorem redirectHost_of_visible
    (visible : ∀ c ∈ requestHost serverHost parts, 32 < c.toNat ∧ c.toNat < 127) :
    redirectHost serverHost parts = requestHost serverHost parts := by
  simp only [requestHost] at visible ⊢
  split at visible
  next value given =>
    rw [redirectHost, HeaderMap.getStr, given, Option.bind_some, toStr_of_visible visible,
      Option.getD_some]
    exact firstLine_of_visible fun c member => (visible c member).1
  next missing =>
    rw [redirectHost, HeaderMap.getStr, missing, Option.bind_none, Option.getD_none]
    exact firstLine_of_visible fun c member => (visible c member).1

theorem secureUrl_text (serverHost : Text) (parts : Parts) :
    (secureUrl serverHost parts).text =
      location (requestHost serverHost parts) parts.uri := by
  have scheme : httpsScheme = "https".toList ++ "://".toList := by decide +kernel
  simp only [secureUrl, Net.Url.text, location, Net.join, scheme]
  cases parts.uri.query with
  | none => simp only [List.append_nil]
  | some query => rfl

theorem isScheme_https : Net.isScheme "https".toList = true := by
  decide +kernel

theorem secureUrl_wellFormed (delimited : parts.uri.Delimited)
    (authority : Net.isAuthority (requestHost serverHost parts) = true)
    (rooted : Net.Url.Rooted parts.uri.path) : (secureUrl serverHost parts).WellFormed where
  scheme := isScheme_https
  authority := authority
  rooted := rooted
  path := delimited.path
  query := delimited.query

end Hosts

variable {state : AppState} {serverHost : Text} {isTls : Bool} {parts : Parts}

theorem wellFormed_of_redirectsTo {url : Net.Url} {dispatch : Option Dispatch}
    (redirects : RedirectsTo url dispatch) : url.WellFormed := by
  rcases redirects with ⟨_, _, _, _, _, parsed⟩
  exact (Net.Url.wellFormed_of_parse parsed).1

/-- The reply that names a location. -/
def redirectTo (location : Text) : HttpReply :=
  { status := 308, headers := [("location", location), ("content-length", ['0'])], body := [] }

theorem redirectToHttps_of_visible
    (unrefused : ¬ (redirectHost serverHost parts = [] ∨ ' ' ∈ redirectHost serverHost parts))
    (visible : ∀ c ∈ requestHost serverHost parts, 32 < c.toNat ∧ c.toNat < 127) :
    redirectToHttps serverHost parts = some (redirectTo (secureUrl serverHost parts).text) := by
  rw [redirectToHttps_eq, if_neg unrefused, redirectHost_of_visible visible, secureUrl_text]
  apply buildReply_of_legal
  intro header given c member
  simp only [List.mem_cons, List.not_mem_nil, or_false] at given
  rcases given with rfl | rfl
  · rcases mem_location member with host | ⟨legal, _⟩
    · have within := visible c host
      simp only [fieldChar, Bool.or_eq_true, Bool.and_eq_true, decide_eq_true_eq]
      right
      omega
    · exact legal
  · rw [List.mem_singleton.mp member]
    rfl

/-- The redirect points at the same resource exactly when the host is one and the path can
follow it. -/
theorem redirectsTo_iff (body : Incoming) (delimited : parts.uri.Delimited)
    (reaches : ReachesRedirect state serverHost isTls parts) :
    RedirectsTo (secureUrl serverHost parts)
        (handleRequest state serverHost isTls parts body) ↔
      Net.isAuthority (requestHost serverHost parts) = true ∧ Net.Url.Rooted parts.uri.path := by
  constructor
  · intro redirects
    have wellFormed := wellFormed_of_redirectsTo redirects
    exact ⟨wellFormed.authority, wellFormed.rooted⟩
  · rintro ⟨authority, rooted⟩
    have visible : ∀ c ∈ requestHost serverHost parts, 32 < c.toNat ∧ c.toNat < 127 :=
      fun c member => Net.isAuthorityChar_visible (Net.isAuthority_chars authority c member)
    have built := redirectToHttps_of_visible reaches.unrefused visible
    refine ⟨redirectTo (secureUrl serverHost parts).text, _, ?_, rfl, rfl, ?_⟩
    · rw [handleRequest_of_not_upgrade reaches.http,
        handleHttp_of_plain reaches.plain reaches.resource, built, Option.map_some]
    · exact Net.Url.parse_text (secureUrl_wellFormed delimited authority rooted)

theorem Uri.legalQuery_some {query : Text} (legal : ∀ c ∈ query, targetChar c = true) :
    ∀ text ∈ some query, ∀ c ∈ text, targetChar c = true := by
  intro text given
  cases given
  exact legal

/-- A search that names its host and port. -/
def searchRequest : Parts where
  method := "GET"
  uri := {
    path := "/search".toList
    query := some "q=1".toList
    legalPath := List.all_eq_true.mp (by decide +kernel)
    legalQuery := Uri.legalQuery_some (List.all_eq_true.mp (by decide +kernel)) }
  headers := [("host", ⟨ascii "example.com:8080", List.all_eq_true.mp (by decide +kernel)⟩)]

theorem redirectsTo_iff_search :
    RedirectsTo (secureUrl "127.0.0.1".toList searchRequest)
      (handleRequest redirecting "127.0.0.1".toList false searchRequest (.new [] false)) := by
  have delimited : searchRequest.uri.Delimited := by
    refine ⟨⟨by decide +kernel, by decide +kernel⟩, ?_⟩
    intro query given
    cases given
    decide +kernel
  have reaches : ReachesRedirect redirecting "127.0.0.1".toList false searchRequest := by
    refine ⟨⟨rfl, rfl⟩, ?_, by decide +kernel, by decide +kernel⟩
    rw [← stripLeading_eq_none]
    decide +kernel
  refine (redirectsTo_iff (.new [] false) delimited reaches).mpr ⟨by decide +kernel, ?_⟩
  exact .inr ⟨"search".toList, by decide +kernel⟩

/-- Without a `Host` header the redirect works from an IPv4 address and never from an IPv6 one. -/
theorem authority_of_hostless (hostless : parts.headers.get "host" = none) (ip : Net.IpAddr) :
    Net.isAuthority (requestHost ip.text parts) = true ↔ ∃ v4, ip = .v4 v4 := by
  rw [requestHost, hostless]
  cases ip with
  | v4 ip => exact iff_of_true (Net.isAuthority_ipv4 ip) ⟨ip, rfl⟩
  | v6 ip =>
      apply iff_of_false
      · rw [Net.IpAddr.text, Net.isAuthority_ipv6]
        exact Bool.false_ne_true
      · rintro ⟨v4, other⟩
        cases other

/-- A request without a `Host` header. -/
def hostlessRequest : Parts where
  method := "GET"
  uri := {
    path := "/".toList
    query := none
    legalPath := List.all_eq_true.mp (by decide +kernel)
    legalQuery := Uri.legalQuery_none }
  headers := []

def ipv6Loopback : Net.Ipv6Addr :=
  ⟨[0, 0, 0, 0, 0, 0, 0, 1], rfl⟩

/-- The location is `https://::1/`. -/
theorem ipv6_redirect_unparsable :
    ReachesRedirect redirecting ipv6Loopback.text false hostlessRequest ∧
      handleRequest redirecting ipv6Loopback.text false hostlessRequest (.new [] false) =
        some (.answered (redirectTo "https://::1/".toList)) ∧
      ¬ RedirectsTo (secureUrl ipv6Loopback.text hostlessRequest)
        (handleRequest redirecting ipv6Loopback.text false hostlessRequest (.new [] false)) := by
  refine ⟨⟨⟨rfl, rfl⟩, ?_, by decide +kernel, by decide +kernel⟩, ?_, ?_⟩
  · rw [← stripLeading_eq_none]
    decide +kernel
  · rfl
  · intro redirects
    have authority := (wellFormed_of_redirectsTo redirects).authority
    rw [show (secureUrl ipv6Loopback.text hostlessRequest).authority = ipv6Loopback.text from rfl,
      Net.isAuthority_ipv6] at authority
    cases authority

end RustAsgi
