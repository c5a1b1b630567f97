import Mathlib.Data.List.TakeWhile
import RustAsgi.Net.Address

/-!
# URLs

Absolute URLs with an authority. They are cut into components at the first delimiter
of each. The authority is that of `http` and `https`: a host and perhaps a port,
without user information. What a path, a query or a fragment is made of is not
looked at.
-/

namespace Net

/-- What stops a walk to a separator is the separator. -/
theorem eq_of_dropWhile {separator first : Char} {text rest : Text}
    (dropped : text.dropWhile (· ≠ separator) = first :: rest) : first = separator := by
  have head := List.head?_dropWhile_not (· ≠ separator) text
  rw [dropped] at head
  simpa using head

section Characters

def isAlphanumeric (c : Char) : Bool :=
  (48 ≤ c.toNat && c.toNat ≤ 57) || (65 ≤ c.toNat && c.toNat ≤ 90) ||
    (97 ≤ c.toNat && c.toNat ≤ 122)

def isDigit (c : Char) : Bool :=
  48 ≤ c.toNat && c.toNat ≤ 57

def isHexDigit (c : Char) : Bool :=
  isDigit c || (65 ≤ c.toNat && c.toNat ≤ 70) || (97 ≤ c.toNat && c.toNat ≤ 102)

def isUnreserved (c : Char) : Bool :=
  isAlphanumeric c || c ∈ "-._~".toList

def isSubDelim (c : Char) : Bool :=
  c ∈ "!$&'()*+,;=".toList

/-- The characters of an authority. -/
def isAuthorityChar (c : Char) : Bool :=
  isUnreserved c || isSubDelim c || c ∈ ":[]%".toList

end Characters

section Hosts

/-- A registered name, which may have escaped bytes. -/
def isRegName : Text → Bool
  | [] => true
  | '%' :: high :: low :: rest => isHexDigit high && isHexDigit low && isRegName rest
  | c :: rest => (isUnreserved c || isSubDelim c) && isRegName rest

def isDecOctet (part : Text) : Bool :=
  (List.range 256).any fun number => part == decimal number

def isIpv4 (text : Text) : Bool :=
  let parts := text.splitOn '.'
  parts.length == 4 && parts.all isDecOctet

def isH16 (part : Text) : Bool :=
  !part.isEmpty && part.length ≤ 4 && part.all isHexDigit

/-- The parts between single colons. -/
def colonParts (text : Text) : List Text :=
  if text = [] then [] else text.splitOn ':'

/-- The number of groups that the parts write. The last one may be an IPv4 address. -/
def groups : List Text → Option ℕ
  | [] => some 0
  | [last] => if isH16 last then some 1 else if isIpv4 last then some 2 else none
  | part :: rest => if isH16 part then (groups rest).map (· + 1) else none

/-- The text before the first double colon, and after it. -/
def elision : Text → Option (Text × Text)
  | ':' :: ':' :: rest => some ([], rest)
  | c :: rest => (elision rest).map fun (front, back) => (c :: front, back)
  | [] => none

def isIpv6 (text : Text) : Bool :=
  match elision text with
  | none => groups (colonParts text) == some 8
  | some (front, back) =>
      (colonParts front).all isH16 &&
        match groups (colonParts back) with
        | some count => (colonParts front).length + count ≤ 7
        | none => false

def isIpvFuture : Text → Bool
  | [] => false
  | mark :: rest =>
      let version := rest.takeWhile (· ≠ '.')
      mark ∈ "vV".toList && !version.isEmpty && version.all isHexDigit &&
        match rest.dropWhile (· ≠ '.') with
        | [] => false
        | _ :: address =>
            !address.isEmpty && address.all fun c => isUnreserved c || isSubDelim c || c == ':'

def isPortSuffix : Text → Bool
  | [] => true
  | mark :: digits => mark == ':' && digits.all isDigit

/-- A host, which is not empty, and perhaps a port. -/
def isAuthority (text : Text) : Bool :=
  match text with
  | '[' :: rest =>
      let literal := rest.takeWhile (· ≠ ']')
      match rest.dropWhile (· ≠ ']') with
      | [] => false
      | _ :: after => (isIpv6 literal || isIpvFuture literal) && isPortSuffix after
  | _ =>
      let name := text.takeWhile (· ≠ ':')
      !name.isEmpty && isRegName name && isPortSuffix (text.dropWhile (· ≠ ':'))

section Members

variable {text part : Text} {c : Char}

theorem isAuthorityChar_visible (within : isAuthorityChar c = true) :
    32 < c.toNat ∧ c.toNat < 127 := by
  have visible : ("-._~".toList ++ "!$&'()*+,;=".toList ++ ":[]%".toList).all (fun mark =>
      decide (32 < mark.toNat ∧ mark.toNat < 127)) = true := by decide +kernel
  have listed := fun mark member => of_decide_eq_true (List.all_eq_true.mp visible mark member)
  simp only [isAuthorityChar, isUnreserved, isSubDelim, Bool.or_eq_true, decide_eq_true_eq]
    at within
  rcases within with ((alphanumeric | mark) | mark) | mark
  · simp only [isAlphanumeric, Bool.or_eq_true, Bool.and_eq_true, decide_eq_true_eq] at alphanumeric
    omega
  · exact listed c (List.mem_append_left _ (List.mem_append_left _ mark))
  · exact listed c (List.mem_append_left _ (List.mem_append_right _ mark))
  · exact listed c (List.mem_append_right _ mark)

theorem isAuthorityChar_of_unreserved (unreserved : isUnreserved c = true) :
    isAuthorityChar c = true := by
  simp [isAuthorityChar, unreserved]

theorem isAuthorityChar_of_subDelim (subDelim : isSubDelim c = true) :
    isAuthorityChar c = true := by
  simp [isAuthorityChar, subDelim]

theorem isUnreserved_of_isHexDigit (digit : isHexDigit c = true) : isUnreserved c = true := by
  simp only [isHexDigit, isDigit, Bool.or_eq_true, Bool.and_eq_true, decide_eq_true_eq] at digit
  simp only [isUnreserved, isAlphanumeric, Bool.or_eq_true, Bool.and_eq_true, decide_eq_true_eq]
  left
  omega

theorem isUnreserved_of_isDigit (digit : isDigit c = true) : isUnreserved c = true := by
  apply isUnreserved_of_isHexDigit
  simp [isHexDigit, digit]

theorem isAuthorityChar_of_isHexDigit (digit : isHexDigit c = true) : isAuthorityChar c = true :=
  isAuthorityChar_of_unreserved (isUnreserved_of_isHexDigit digit)

theorem isAuthorityChar_of_isDigit (digit : isDigit c = true) : isAuthorityChar c = true :=
  isAuthorityChar_of_unreserved (isUnreserved_of_isDigit digit)

theorem isDigit_of_mem_decimal {number : ℕ} (member : c ∈ decimal number) : isDigit c = true := by
  have digit := Nat.isDigit_of_mem_toDigits (by decide) (by decide) member
  simp only [Char.isDigit, Bool.and_eq_true, decide_eq_true_eq] at digit
  have low : 48 ≤ c.toNat := digit.1
  have high : c.toNat ≤ 57 := digit.2
  simp only [isDigit, Bool.and_eq_true, decide_eq_true_eq]
  exact ⟨low, high⟩

theorem forall_mem_intercalate {allowed : Char → Prop} {separator : Char} {parts : List Text}
    (between : allowed separator) (within : ∀ part ∈ parts, ∀ c ∈ part, allowed c) :
    ∀ c ∈ [separator].intercalate parts, allowed c := by
  induction parts with
  | nil => simp
  | cons first rest ih =>
      have later := ih fun part member => within part (List.mem_cons_of_mem _ member)
      have here := within first List.mem_cons_self
      cases rest with
      | nil => simpa only [List.intercalate_singleton] using here
      | cons second rest =>
          intro c member
          rw [List.intercalate_cons_cons, List.append_assoc, List.mem_append,
            List.singleton_append, List.mem_cons] at member
          rcases member with first | rfl | later_
          · exact here c first
          · exact between
          · exact later c later_

/-- What the separator and the parts are made of, the text is made of. -/
theorem forall_mem_of_splitOn {allowed : Char → Prop} {separator : Char}
    (between : allowed separator)
    (within : ∀ part ∈ text.splitOn separator, ∀ c ∈ part, allowed c) : ∀ c ∈ text, allowed c := by
  have whole := forall_mem_intercalate between within
  rwa [List.intercalate_splitOn] at whole

theorem isRegName_chars (named : isRegName text = true) :
    ∀ c ∈ text, isAuthorityChar c = true := by
  fun_induction isRegName text with
  | case1 => simp
  | case2 high low rest ih =>
      simp only [Bool.and_eq_true] at named
      rcases named with ⟨⟨isHigh, isLow⟩, named⟩
      intro c member
      simp only [List.mem_cons] at member
      rcases member with rfl | rfl | rfl | later
      · decide
      · exact isAuthorityChar_of_isHexDigit isHigh
      · exact isAuthorityChar_of_isHexDigit isLow
      · exact ih named c later
  | case3 first rest _ ih =>
      simp only [Bool.and_eq_true, Bool.or_eq_true] at named
      rcases named with ⟨plain, named⟩
      intro c member
      rcases List.mem_cons.mp member with rfl | later
      · rcases plain with unreserved | subDelim
        · exact isAuthorityChar_of_unreserved unreserved
        · exact isAuthorityChar_of_subDelim subDelim
      · exact ih named c later

theorem isDecOctet_chars (octet : isDecOctet part = true) :
    ∀ c ∈ part, isAuthorityChar c = true := by
  simp only [isDecOctet, List.any_eq_true, beq_iff_eq] at octet
  rcases octet with ⟨number, _, rfl⟩
  intro c member
  exact isAuthorityChar_of_isDigit (isDigit_of_mem_decimal member)

theorem isIpv4_chars (address : isIpv4 text = true) : ∀ c ∈ text, isAuthorityChar c = true := by
  simp only [isIpv4, Bool.and_eq_true, List.all_eq_true] at address
  exact forall_mem_of_splitOn (by decide) fun part member =>
    isDecOctet_chars (address.2 part member)

theorem isH16_chars (h16 : isH16 part = true) : ∀ c ∈ part, isAuthorityChar c = true := by
  simp only [isH16, Bool.and_eq_true, List.all_eq_true] at h16
  exact fun c member => isAuthorityChar_of_isHexDigit (h16.2 c member)

theorem groups_chars {parts : List Text} {count : ℕ} (written : groups parts = some count) :
    ∀ part ∈ parts, ∀ c ∈ part, isAuthorityChar c = true := by
  fun_induction groups parts generalizing count with
  | case1 => simp
  | case2 last h16 =>
      intro part member
      rw [List.mem_singleton.mp member]
      exact isH16_chars h16
  | case3 last _ address =>
      intro part member
      rw [List.mem_singleton.mp member]
      exact isIpv4_chars address
  | case4 => cases written
  | case5 first rest _ h16 ih =>
      rcases Option.map_eq_some_iff.mp written with ⟨fewer, written, _⟩
      intro part member
      rcases List.mem_cons.mp member with rfl | later
      · exact isH16_chars h16
      · exact ih written part later
  | case6 => cases written

theorem colonParts_chars
    (within : ∀ part ∈ colonParts text, ∀ c ∈ part, isAuthorityChar c = true) :
    ∀ c ∈ text, isAuthorityChar c = true := by
  by_cases empty : text = []
  · simp [empty]
  · rw [colonParts, if_neg empty] at within
    exact forall_mem_of_splitOn (by decide) within

theorem elision_eq_some {front back : Text} (elided : elision text = some (front, back)) :
    text = front ++ ':' :: ':' :: back := by
  fun_induction elision text generalizing front with
  | case1 rest =>
      cases elided
      rfl
  | case2 c rest _ ih =>
      rcases Option.map_eq_some_iff.mp elided with ⟨⟨inner, outer⟩, elided, same⟩
      cases same
      rw [ih elided, List.cons_append]
  | case3 => cases elided

theorem isIpv6_chars (address : isIpv6 text = true) : ∀ c ∈ text, isAuthorityChar c = true := by
  simp only [isIpv6] at address
  split at address
  · rw [beq_iff_eq] at address
    exact colonParts_chars (groups_chars address)
  · rename_i front back elided
    rw [Bool.and_eq_true, List.all_eq_true] at address
    rcases address with ⟨before, address⟩
    split at address
    · rename_i count written
      rw [elision_eq_some elided]
      intro c member
      simp only [List.mem_append, List.mem_cons] at member
      rcases member with inFront | rfl | rfl | inBack
      · exact colonParts_chars (fun part member => isH16_chars (before part member)) c inFront
      · decide
      · decide
      · exact colonParts_chars (groups_chars written) c inBack
    · cases address

theorem isIpvFuture_chars (address : isIpvFuture text = true) :
    ∀ c ∈ text, isAuthorityChar c = true := by
  cases text with
  | nil => simp
  | cons mark rest =>
      simp only [isIpvFuture, Bool.and_eq_true, decide_eq_true_eq, List.all_eq_true] at address
      rcases address with ⟨⟨⟨marked, _⟩, version⟩, address⟩
      split at address
      · cases address
      · rename_i dot digits dropped
        simp only [Bool.and_eq_true, List.all_eq_true, Bool.or_eq_true, beq_iff_eq] at address
        have stopped := eq_of_dropWhile dropped
        intro c member
        rw [List.mem_cons, ← List.takeWhile_append_dropWhile (p := (· ≠ '.')) (l := rest),
          List.mem_append, dropped, List.mem_cons] at member
        rcases member with rfl | inVersion | rfl | inAddress
        · have marks : "vV".toList.all isAuthorityChar = true := by decide +kernel
          exact List.all_eq_true.mp marks c marked
        · exact isAuthorityChar_of_isHexDigit (version c inVersion)
        · rw [stopped]
          decide
        · rcases address.2 c inAddress with (unreserved | subDelim) | rfl
          · exact isAuthorityChar_of_unreserved unreserved
          · exact isAuthorityChar_of_subDelim subDelim
          · decide

theorem isPortSuffix_chars (port : isPortSuffix text = true) :
    ∀ c ∈ text, isAuthorityChar c = true := by
  cases text with
  | nil => simp
  | cons mark digits =>
      simp only [isPortSuffix, Bool.and_eq_true, beq_iff_eq, List.all_eq_true] at port
      rcases port with ⟨rfl, digits⟩
      intro c member
      rcases List.mem_cons.mp member with rfl | later
      · decide
      · exact isAuthorityChar_of_isDigit (digits c later)

/-- An authority is visible ASCII without the delimiters of the other components. -/
theorem isAuthority_chars (authority : isAuthority text = true) :
    ∀ c ∈ text, isAuthorityChar c = true := by
  simp only [isAuthority] at authority
  split at authority
  · rename_i rest
    split at authority
    · cases authority
    · rename_i closing after dropped
      simp only [Bool.and_eq_true, Bool.or_eq_true] at authority
      rcases authority with ⟨literal, port⟩
      have stopped := eq_of_dropWhile dropped
      intro c member
      rw [List.mem_cons, ← List.takeWhile_append_dropWhile (p := (· ≠ ']')) (l := rest),
        List.mem_append, dropped, List.mem_cons] at member
      rcases member with rfl | inLiteral | rfl | inPort
      · decide
      · rcases literal with address | future
        · exact isIpv6_chars address c inLiteral
        · exact isIpvFuture_chars future c inLiteral
      · rw [stopped]
        decide
      · exact isPortSuffix_chars port c inPort
  · simp only [Bool.and_eq_true] at authority
    rcases authority with ⟨⟨_, named⟩, port⟩
    intro c member
    rw [← List.takeWhile_append_dropWhile (p := (· ≠ ':')) (l := text), List.mem_append] at member
    rcases member with inName | inPort
    · exact isRegName_chars named c inName
    · exact isPortSuffix_chars port c inPort

end Members

section Addresses

theorem bracket_not_mem_hexadecimal (number : ℕ) : '[' ∉ hexadecimal number := by
  rw [hexadecimal]
  induction number using Nat.strong_induction_on with
  | h number ih =>
      by_cases small : number < 16
      · rw [Nat.toDigits_of_lt_base small]
        simp
      · have large : 16 ≤ number := Nat.le_of_not_lt small
        rw [Nat.toDigits_of_base_le (by decide) large, List.mem_append, not_or]
        refine ⟨ih _ (Nat.div_lt_self (by omega) (by decide)), ?_⟩
        simp

/-- A text with two colons that is not in brackets has no host in front of its port. -/
theorem isAuthority_of_colons {text : Text} (bracketless : '[' ∉ text)
    (colons : 2 ≤ text.count ':') : isAuthority text = false := by
  apply Bool.eq_false_iff.mpr
  intro authority
  simp only [isAuthority] at authority
  split at authority
  · exact bracketless List.mem_cons_self
  · simp only [Bool.and_eq_true] at authority
    have nameless : (text.takeWhile (· ≠ ':')).count ':' = 0 := by
      apply List.count_eq_zero.mpr
      intro member
      have differs := List.mem_takeWhile_imp member
      simp at differs
    have whole := congrArg (List.count ':')
      (List.takeWhile_append_dropWhile (p := (· ≠ ':')) (l := text))
    rw [List.count_append, nameless] at whole
    have port := authority.2
    cases suffix : text.dropWhile (· ≠ ':') with
    | nil =>
        rw [suffix, List.count_nil] at whole
        omega
    | cons mark digits =>
        rw [suffix] at port whole
        simp only [isPortSuffix, Bool.and_eq_true, List.all_eq_true] at port
        have none_ : digits.count ':' = 0 := by
          apply List.count_eq_zero.mpr
          intro member
          have digit := port.2 ':' member
          cases digit
        rw [List.count_cons, none_] at whole
        split at whole <;> omega

theorem isAuthority_of_empty {text : Text} (colon : text.head? = some ':') :
    isAuthority text = false := by
  cases text with
  | nil => cases colon
  | cons first rest =>
      cases colon
      rfl

theorem bracket_not_mem_subslice (segments : List UInt16) :
    '[' ∉ Ipv6Addr.subslice segments := by
  have between : ':' ≠ '[' := by decide
  have within : ∀ part ∈ segments.map fun segment => hexadecimal segment.toNat, ∀ c ∈ part,
      c ≠ '[' := by
    intro part member c inside
    rcases List.mem_map.mp member with ⟨segment, _, rfl⟩
    rintro rfl
    exact bracket_not_mem_hexadecimal _ inside
  intro member
  exact @forall_mem_intercalate (fun c => c ≠ '[') ':' _ between within '[' member rfl

theorem colons_subslice (segments : List UInt16) :
    segments.length ≤ (Ipv6Addr.subslice segments).count ':' + 1 := by
  simp only [Ipv6Addr.subslice]
  induction segments with
  | nil => simp
  | cons first rest ih =>
      cases rest with
      | nil => simp
      | cons second rest =>
          simp only [List.map_cons, List.intersperse_cons_cons, List.flatten_cons,
            List.count_append, List.length_cons, List.count_singleton_self] at ih ⊢
          omega

/-- An IPv6 address is no authority as long as it has no brackets. -/
theorem isAuthority_ipv6 (ip : Ipv6Addr) : isAuthority ip.text = false := by
  simp only [Ipv6Addr.text]
  split
  · exact isAuthority_of_empty rfl
  · split
    · apply isAuthority_of_colons
      · simp only [List.mem_append, not_or]
        exact ⟨⟨bracket_not_mem_subslice _, by decide +kernel⟩, bracket_not_mem_subslice _⟩
      · have elided : "::".toList.count ':' = 2 := by decide +kernel
        simp only [List.count_append, elided]
        omega
    · apply isAuthority_of_colons (bracket_not_mem_subslice _)
      have colons := colons_subslice ip.segments
      rw [ip.eight] at colons
      omega

theorem isRegName_of_unreserved {text : Text} (unreserved : ∀ c ∈ text, isUnreserved c = true) :
    isRegName text = true := by
  fun_induction isRegName text with
  | case1 => rfl
  | case2 high low rest =>
      have escape := unreserved '%' List.mem_cons_self
      cases escape
  | case3 first rest _ ih =>
      rw [unreserved first List.mem_cons_self,
        ih fun c member => unreserved c (List.mem_cons_of_mem _ member)]
      rfl

/-- A name without a port is an authority. -/
theorem isAuthority_of_unreserved {text : Text} (nonempty : text ≠ [])
    (unreserved : ∀ c ∈ text, isUnreserved c = true) : isAuthority text = true := by
  have differs : ∀ c ∈ text, decide (c ≠ ':') = true := by
    intro c member
    rw [decide_eq_true_iff]
    rintro rfl
    have colon := unreserved ':' member
    cases colon
  have taken := List.takeWhile_eq_self_iff.mpr differs
  have dropped := List.dropWhile_eq_nil_iff.mpr differs
  simp only [isAuthority]
  split
  · have bracket := unreserved '[' List.mem_cons_self
    cases bracket
  · rw [taken, dropped, isRegName_of_unreserved unreserved, List.isEmpty_eq_false_iff.mpr nonempty]
    rfl

/-- An IPv4 address is an authority. -/
theorem isAuthority_ipv4 (ip : Ipv4Addr) : isAuthority ip.text = true := by
  apply isAuthority_of_unreserved
  · simp [Ipv4Addr.text]
  · intro c member
    have ofOctet {number : ℕ} (inside : c ∈ decimal number) : isUnreserved c = true :=
      isUnreserved_of_isDigit (isDigit_of_mem_decimal inside)
    have dot : isUnreserved '.' = true := by decide +kernel
    simp only [Ipv4Addr.text, List.mem_append, List.mem_cons] at member
    rcases member with ((first | rfl | second) | rfl | third) | rfl | fourth
    · exact ofOctet first
    · exact dot
    · exact ofOctet second
    · exact dot
    · exact ofOctet third
    · exact dot
    · exact ofOctet fourth

end Addresses

example : isAuthority "[2001:db8::192.0.2.1]:8443".toList = true := by decide +kernel

end Hosts

/-- `text` with `rest` behind a separator. -/
def join (separator : Char) (front : Text) : Option Text → Text
  | none => front
  | some back => front ++ separator :: back

/-- Cut a text at the first separator. -/
def cut (separator : Char) (text : Text) : Text × Option Text :=
  match text.dropWhile (· ≠ separator) with
  | [] => (text, none)
  | _ :: back => (text.takeWhile (· ≠ separator), some back)

section Cut

variable {separator : Char} {front text : Text} {back : Option Text}

theorem cut_join (free : separator ∉ front) :
    cut separator (join separator front back) = (front, back) := by
  have differs : ∀ c ∈ front, decide (c ≠ separator) = true := by
    intro c member
    rw [decide_eq_true_iff]
    rintro rfl
    exact free member
  cases back with
  | none =>
      have dropped : front.dropWhile (· ≠ separator) = [] := List.dropWhile_eq_nil_iff.mpr differs
      simp only [cut, join, dropped]
  | some rest =>
      have dropped :
          (front ++ separator :: rest).dropWhile (· ≠ separator) = separator :: rest := by
        rw [List.dropWhile_append_of_pos differs]
        exact List.dropWhile_cons_of_neg (by simp)
      have taken : (front ++ separator :: rest).takeWhile (· ≠ separator) = front := by
        rw [List.takeWhile_append_of_pos differs, List.takeWhile_cons_of_neg (by simp),
          List.append_nil]
      simp only [cut, join, dropped, taken]

theorem join_of_cut (parts : cut separator text = (front, back)) :
    separator ∉ front ∧ text = join separator front back := by
  simp only [cut] at parts
  split at parts
  next dropped =>
    cases parts
    refine ⟨?_, rfl⟩
    intro member
    have differs := List.dropWhile_eq_nil_iff.mp dropped separator member
    simp at differs
  next met rest dropped =>
    cases parts
    have stopped := eq_of_dropWhile dropped
    refine ⟨?_, ?_⟩
    · intro member
      have differs := List.mem_takeWhile_imp member
      simp at differs
    · subst stopped
      rw [join, ← dropped, List.takeWhile_append_dropWhile]

end Cut

def isScheme : Text → Bool
  | [] => false
  | first :: rest => !isDigit first && isAlphanumeric first &&
      rest.all fun c => isAlphanumeric c || c ∈ "+-.".toList

structure Url where
  scheme : Text
  authority : Text
  path : Text
  query : Option Text
  fragment : Option Text
  deriving DecidableEq, Repr

namespace Url

def text (url : Url) : Text :=
  join '#' (join '?' (url.scheme ++ "://".toList ++ url.authority ++ url.path) url.query)
    url.fragment

/-- A path that can follow an authority. -/
def Rooted (path : Text) : Prop :=
  path = [] ∨ ∃ rest, path = '/' :: rest

structure WellFormed (url : Url) : Prop where
  scheme : isScheme url.scheme = true
  authority : isAuthority url.authority = true
  rooted : Rooted url.path
  path : '?' ∉ url.path ∧ '#' ∉ url.path
  query : ∀ query ∈ url.query, '#' ∉ query

def parse (text : Text) : Option Url :=
  let (rest, fragment) := cut '#' text
  let (hierarchy, query) := cut '?' rest
  match cut ':' hierarchy with
  | (scheme, some ('/' :: '/' :: rest)) =>
      let authority := rest.takeWhile (· ≠ '/')
      let path := rest.dropWhile (· ≠ '/')
      if isScheme scheme && isAuthority authority then
        some { scheme, authority, path, query, fragment }
      else none
  | _ => none

example : parse "https://[::1]:8443/a?b#c".toList =
    some { scheme := "https".toList, authority := "[::1]:8443".toList, path := "/a".toList,
           query := some "b".toList, fragment := some "c".toList } := by
  decide +kernel

example : parse "https://::1/a".toList = none := by decide +kernel

theorem isScheme_chars {scheme : Text} (valid : isScheme scheme = true) :
    ∀ c ∈ scheme, isAlphanumeric c = true ∨ c ∈ "+-.".toList := by
  cases scheme with
  | nil => cases valid
  | cons first rest =>
      simp only [isScheme, Bool.and_eq_true, List.all_eq_true, Bool.or_eq_true,
        decide_eq_true_eq] at valid
      intro c member
      rcases List.mem_cons.mp member with rfl | later
      · exact .inl valid.1.2
      · exact valid.2 c later

/-- The delimiters of the other components are in none of scheme, authority and path. -/
theorem WellFormed.free {url : Url} (wellFormed : url.WellFormed) :
    ':' ∉ url.scheme ∧
      '?' ∉ url.scheme ++ "://".toList ++ url.authority ++ url.path ∧
      '#' ∉ url.scheme ++ "://".toList ++ url.authority ++ url.path := by
  have inScheme := isScheme_chars wellFormed.scheme
  have inAuthority := isAuthority_chars wellFormed.authority
  have outside (c : Char) (other : isAlphanumeric c = false) (mark : c ∉ "+-.".toList) :
      c ∉ url.scheme := by
    intro member
    rcases inScheme c member with alphanumeric | inside
    · rw [other] at alphanumeric
      cases alphanumeric
    · exact mark inside
  have free (c : Char) (scheme : c ∉ url.scheme) (between : c ∉ "://".toList)
      (other : isAuthorityChar c = false) (path : c ∉ url.path) :
      c ∉ url.scheme ++ "://".toList ++ url.authority ++ url.path := by
    simp only [List.mem_append, not_or]
    refine ⟨⟨⟨scheme, between⟩, ?_⟩, path⟩
    intro member
    have within := inAuthority c member
    rw [other] at within
    cases within
  refine ⟨outside ':' (by decide) (by decide +kernel), ?_, ?_⟩
  · exact free '?' (outside '?' (by decide) (by decide +kernel)) (by decide +kernel) (by decide)
      wellFormed.path.1
  · exact free '#' (outside '#' (by decide) (by decide +kernel)) (by decide +kernel) (by decide)
      wellFormed.path.2

theorem not_mem_join {separator c : Char} {front : Text} {back : Option Text}
    (other : c ≠ separator)
    (before : c ∉ front) (after : ∀ text ∈ back, c ∉ text) : c ∉ join separator front back := by
  cases back with
  | none => exact before
  | some text =>
      simp only [join, List.mem_append, List.mem_cons, not_or]
      exact ⟨before, other, after text rfl⟩

theorem takeWhile_of_rooted {authority path : Text} (free : '/' ∉ authority)
    (rooted : Rooted path) :
    (authority ++ path).takeWhile (· ≠ '/') = authority ∧
      (authority ++ path).dropWhile (· ≠ '/') = path := by
  have differs : ∀ c ∈ authority, decide (c ≠ '/') = true := by
    intro c member
    rw [decide_eq_true_iff]
    rintro rfl
    exact free member
  rw [List.takeWhile_append_of_pos differs, List.dropWhile_append_of_pos differs]
  rcases rooted with rfl | ⟨rest, rfl⟩ <;> simp

theorem mem_join_of_mem {separator c : Char} {front : Text} {back : Option Text}
    (member : c ∈ front) : c ∈ join separator front back := by
  cases back with
  | none => exact member
  | some text => exact List.mem_append_left _ member

theorem mem_join_of_mem_back {separator c : Char} {front text : Text} {back : Option Text}
    (given : text ∈ back) (member : c ∈ text) : c ∈ join separator front back := by
  cases given
  exact List.mem_append_right _ (List.mem_cons_of_mem _ member)

theorem rooted_dropWhile (text : Text) : Rooted (text.dropWhile (· ≠ '/')) := by
  cases dropped : text.dropWhile (· ≠ '/') with
  | nil => exact .inl rfl
  | cons first rest =>
      exact .inr ⟨rest, by rw [eq_of_dropWhile dropped]⟩

/-- The round trip of a URL. -/
theorem parse_text {url : Url} (wellFormed : url.WellFormed) : parse url.text = some url := by
  rcases wellFormed.free with ⟨scheme, query, fragment⟩
  have hierarchy : url.scheme ++ "://".toList ++ url.authority ++ url.path =
      join ':' url.scheme (some ('/' :: '/' :: (url.authority ++ url.path))) := by
    simp [join]
  have slashless : '/' ∉ url.authority := by
    intro member
    have within := isAuthority_chars wellFormed.authority '/' member
    cases within
  have tail := takeWhile_of_rooted slashless wellFormed.rooted
  rw [parse, text, cut_join (not_mem_join (by decide) fragment wellFormed.query)]
  simp only [cut_join query]
  rw [hierarchy, cut_join scheme]
  simp only [tail.1, tail.2, wellFormed.scheme, wellFormed.authority, Bool.and_self, if_true]

/-- What is parsed is well formed, and nothing of the text is lost. -/
theorem wellFormed_of_parse {source : Text} {url : Url} (parsed : parse source = some url) :
    url.WellFormed ∧ url.text = source := by
  rcases first : cut '#' source with ⟨body, fragment⟩
  rcases second : cut '?' body with ⟨hierarchy, query⟩
  rcases third : cut ':' hierarchy with ⟨scheme, rest⟩
  rcases join_of_cut first with ⟨noFragment, rfl⟩
  rcases join_of_cut second with ⟨noQuery, rfl⟩
  rcases join_of_cut third with ⟨_, rfl⟩
  rw [parse, first] at parsed
  simp only [second, third] at parsed
  split at parsed
  · rename_i scheme rest same
    cases same
    split at parsed
    · rename_i valid
      rw [Bool.and_eq_true] at valid
      cases parsed
      have inPath (c : Char) (member : c ∈ rest.dropWhile (· ≠ '/')) :
          c ∈ join ':' scheme (some ('/' :: '/' :: rest)) := by
        have inRest := (List.dropWhile_suffix (· ≠ '/')).mem member
        simp [join, inRest]
      refine ⟨⟨valid.1, valid.2, rooted_dropWhile rest, ⟨?_, ?_⟩, ?_⟩, ?_⟩
      · exact fun member => noQuery (inPath '?' member)
      · exact fun member => noFragment (mem_join_of_mem (inPath '#' member))
      · exact fun _ given member => noFragment (mem_join_of_mem_back given member)
      · simp [text, join]
    · cases parsed
  · cases parsed

end Url

end Net
