import Mathlib.Data.List.Basic
import Mathlib.Tactic.Common

/-!
# Internet addresses

The addresses of `std::net` with the texts that they display as. An IPv6 address
leaves out its longest run of zero segments, the first one of several, and writes an
IPv4-mapped address with dots.
-/

namespace Net

abbrev Text := List Char

def decimal (number : ℕ) : Text :=
  Nat.toDigits 10 number

def hexadecimal (number : ℕ) : Text :=
  Nat.toDigits 16 number

structure Ipv4Addr where
  a : UInt8
  b : UInt8
  c : UInt8
  d : UInt8
  deriving DecidableEq, Repr

structure Ipv6Addr where
  segments : List UInt16
  eight : segments.length = 8
  deriving DecidableEq, Repr

inductive IpAddr where
  | v4 (ip : Ipv4Addr)
  | v6 (ip : Ipv6Addr)
  deriving DecidableEq, Repr

inductive SocketAddr where
  | v4 (ip : Ipv4Addr) (port : UInt16)
  | v6 (ip : Ipv6Addr) (port : UInt16) (scopeId : UInt32)
  deriving DecidableEq, Repr

def Ipv4Addr.text (ip : Ipv4Addr) : Text :=
  decimal ip.a.toNat ++ '.' :: decimal ip.b.toNat ++ '.' :: decimal ip.c.toNat ++
    '.' :: decimal ip.d.toNat

/-- A run of zero segments. -/
structure Span where
  start : ℕ
  len : ℕ
  deriving DecidableEq, Repr

namespace Ipv6Addr

/-- The loop over the segments, with the longest run so far and the current one. -/
def longestZeros : ℕ → List UInt16 → Span → Span → Span
  | _, [], longest, _ => longest
  | i, segment :: rest, longest, current =>
      if segment = 0 then
        let grown : Span :=
          { start := if current.len = 0 then i else current.start, len := current.len + 1 }
        longestZeros (i + 1) rest (if longest.len < grown.len then grown else longest) grown
      else longestZeros (i + 1) rest longest ⟨0, 0⟩

/-- The segments between colons. -/
def subslice (segments : List UInt16) : Text :=
  ((segments.map fun segment => hexadecimal segment.toNat).intersperse [':']).flatten

/-- `to_ipv4_mapped`. -/
def mapped? (ip : Ipv6Addr) : Option Ipv4Addr :=
  match ip.segments with
  | [0, 0, 0, 0, 0, 0xffff, high, low] =>
      some {
        a := (high >>> 8).toUInt8, b := high.toUInt8, c := (low >>> 8).toUInt8, d := low.toUInt8 }
  | _ => none

def text (ip : Ipv6Addr) : Text :=
  match ip.mapped? with
  | some ip => "::ffff:".toList ++ ip.text
  | none =>
      let zeros := longestZeros 0 ip.segments ⟨0, 0⟩ ⟨0, 0⟩
      if 1 < zeros.len then
        subslice (ip.segments.take zeros.start) ++ "::".toList ++
          subslice (ip.segments.drop (zeros.start + zeros.len))
      else subslice ip.segments

example : (text ⟨[0x2001, 0xdb8, 0, 0, 1, 0, 0, 1], rfl⟩) = "2001:db8::1:0:0:1".toList := by decide

end Ipv6Addr

def IpAddr.text : IpAddr → Text
  | .v4 ip => ip.text
  | .v6 ip => ip.text

namespace SocketAddr

def ip : SocketAddr → IpAddr
  | .v4 ip _ => .v4 ip
  | .v6 ip _ _ => .v6 ip

def port : SocketAddr → UInt16
  | .v4 _ port | .v6 _ port _ => port

def text : SocketAddr → Text
  | .v4 ip port => ip.text ++ ':' :: decimal port.toNat
  | .v6 ip port scopeId =>
      if scopeId = 0 then '[' :: ip.text ++ "]:".toList ++ decimal port.toNat
      else '[' :: ip.text ++ '%' :: decimal scopeId.toNat ++ "]:".toList ++ decimal port.toNat

/-- The text of a socket address has more than that of its IP address. -/
theorem length_ip_lt (addr : SocketAddr) : addr.ip.text.length < addr.text.length := by
  cases addr with
  | v4 ip port =>
      simp only [text, SocketAddr.ip, IpAddr.text, List.length_append, List.length_cons]
      omega
  | v6 ip port scopeId =>
      simp only [text, SocketAddr.ip, IpAddr.text]
      split
      · simp only [List.length_append, List.length_cons]
        omega
      · simp only [List.length_append, List.length_cons]
        omega

theorem text_ne_ip (addr : SocketAddr) : addr.text ≠ addr.ip.text := by
  intro same
  have longer := addr.length_ip_lt
  rw [same] at longer
  exact Nat.lt_irrefl _ longer

end SocketAddr

/-- The characters that addresses are written with. -/
def addressChars : Text :=
  "0123456789abcdef.:[]%".toList

theorem mem_toDigits {base number : ℕ} {c : Char} (large : 1 < base)
    (member : c ∈ Nat.toDigits base number) : ∃ digit < base, c = Nat.digitChar digit := by
  induction number using Nat.strongRecOn with
  | ind number ih =>
      rw [Nat.toDigits_eq_if large] at member
      split at member
      case isTrue small => exact ⟨number, small, List.mem_singleton.mp member⟩
      case isFalse long =>
          rcases List.mem_append.mp member with front | last
          · exact ih _ (Nat.div_lt_self (by omega) large) front
          · exact ⟨_, Nat.mod_lt _ (by omega), List.mem_singleton.mp last⟩

theorem digitChar_mem {digit : ℕ} (small : digit < 16) : Nat.digitChar digit ∈ addressChars := by
  have all : ∀ digit : Fin 16, Nat.digitChar digit ∈ addressChars := by decide
  exact all ⟨digit, small⟩

theorem decimal_subset (number : ℕ) : decimal number ⊆ addressChars := by
  intro c member
  rcases mem_toDigits (by decide) member with ⟨digit, small, rfl⟩
  exact digitChar_mem (by omega)

theorem hexadecimal_subset (number : ℕ) : hexadecimal number ⊆ addressChars := by
  intro c member
  rcases mem_toDigits (by decide) member with ⟨digit, small, rfl⟩
  exact digitChar_mem small

theorem Ipv4Addr.text_subset (ip : Ipv4Addr) : ip.text ⊆ addressChars := by
  have dot : '.' ∈ addressChars := by decide
  simp only [Ipv4Addr.text, List.append_subset, List.cons_subset]
  simp only [decimal_subset, dot, and_self]

theorem Ipv6Addr.subslice_subset (segments : List UInt16) :
    subslice segments ⊆ addressChars := by
  induction segments with
  | nil => exact List.nil_subset _
  | cons segment rest ih =>
      cases rest with
      | nil => simpa [subslice] using hexadecimal_subset segment.toNat
      | cons next rest =>
          have colon : ':' ∈ addressChars := by decide
          have split : subslice (segment :: next :: rest) =
              hexadecimal segment.toNat ++ ':' :: subslice (next :: rest) := by
            simp [subslice]
          rw [split, List.append_subset, List.cons_subset]
          exact ⟨hexadecimal_subset _, colon, ih⟩

theorem Ipv6Addr.text_subset (ip : Ipv6Addr) : ip.text ⊆ addressChars := by
  have mapped : "::ffff:".toList ⊆ addressChars := by decide
  have gap : "::".toList ⊆ addressChars := by decide
  simp only [Ipv6Addr.text]
  split
  · rw [List.append_subset]
    exact ⟨mapped, Ipv4Addr.text_subset _⟩
  · split
    · simp only [List.append_subset, subslice_subset, gap, and_self]
    · exact subslice_subset _

theorem SocketAddr.text_subset (addr : SocketAddr) : addr.text ⊆ addressChars := by
  have brackets : '[' ∈ addressChars ∧ "]:".toList ⊆ addressChars := by decide
  have marks : '%' ∈ addressChars ∧ ':' ∈ addressChars := by decide
  cases addr with
  | v4 ip port =>
      simp only [SocketAddr.text, List.append_subset, List.cons_subset, ip.text_subset,
        decimal_subset, marks, and_self]
  | v6 ip port scopeId =>
      simp only [SocketAddr.text]
      split <;>
        simp only [List.append_subset, List.cons_subset, ip.text_subset, decimal_subset, brackets,
          marks, and_self]

end Net
