import SnmpManager.Net.Ipv4
import SnmpManager.Text.Radix

/-!
# IPv6 addresses

- `Ipv6.parse?` reads a whole text: eight groups of one to four hex digits
  between colons, where `::` may stand for one or more zero groups and the last
  two groups may be written as an IPv4 address.
- `Ipv6.text` is the compressed form: lower-case hex, the first longest run of
  two or more zero groups as `::`, and an IPv4-mapped address with its last two
  groups in dotted decimal.
-/

namespace SnmpManager

/-- Eight groups of sixteen bits. -/
structure Ipv6 where
  groups : Vector UInt16 8
  deriving DecidableEq, Repr

namespace Ipv6

/-! ## Reading -/

/-- One to four hex digits at the front of a text, with what follows all its hex digits. -/
def readGroup? (text : List Char) : Option (UInt16 × List Char) :=
  let digits := text.takeWhile fun c => (Radix.hexDigit? c).isSome
  if digits.length > 4 then none
  else (Radix.nat? 16 digits).map fun n => (UInt16.ofNat n, text.drop digits.length)

/-- The two groups an IPv4 address stands for. -/
def groupsOfIpv4 (addr : Ipv4) : List UInt16 :=
  [UInt16.ofNat (addr.a.toNat * 256 + addr.b.toNat),
    UInt16.ofNat (addr.c.toNat * 256 + addr.d.toNat)]

/-- The colon before every group but the first of a series. -/
def skipSeparator? (first : Bool) (text : List Char) : Option (List Char) :=
  if first then some text
  else match text with
    | ':' :: rest => some rest
    | _ => none

/-- A series of at most `room` groups: the groups, whether an IPv4 address ended
it, and the rest of the text. -/
def readGroups : (room : Nat) → (first : Bool) → List Char → List UInt16 × Bool × List Char
  | 0, _, text => ([], false, text)
  | room + 1, first, text =>
    match (if room = 0 then none else (skipSeparator? first text).bind Ipv4.read?) with
    | some (addr, rest) => (groupsOfIpv4 addr, true, rest)
    | none =>
      match (skipSeparator? first text).bind readGroup? with
      | some (group, rest) =>
        let (groups, dotted, rest) := readGroups room false rest
        (group :: groups, dotted, rest)
      | none => ([], false, text)

/-- Eight groups from a list that has eight. -/
def ofList? (groups : List UInt16) : Option Ipv6 :=
  if h : groups.length = 8 then some ⟨⟨groups.toArray, by simpa using h⟩⟩ else none

/-- A text that is one address and nothing else. -/
def parse? (text : List Char) : Option Ipv6 :=
  match readGroups 8 true text with
  | (head, dotted, rest) =>
    if head.length = 8 then
      if rest = [] then ofList? head else none
    else if dotted then none
    else match rest with
      | ':' :: ':' :: rest =>
        match readGroups (7 - head.length) true rest with
        | (tail, _, []) =>
          ofList? (head ++ List.replicate (8 - head.length - tail.length) 0 ++ tail)
        | _ => none
      | _ => none

/-! ## Writing -/

/-- The length of the run of zero groups at the front. -/
def zeroRun (groups : List UInt16) : Nat :=
  (groups.takeWhile (· == 0)).length

/-- Start and length of the first longest run of zero groups in the groups from index `at` on. -/
def longestRun : (start : Nat) → List UInt16 → Nat × Nat
  | _, [] => (0, 0)
  | start, group :: rest =>
    let here := zeroRun (group :: rest)
    let (later, length) := longestRun (start + 1) rest
    if here > 0 ∧ here ≥ length then (start, here) else (later, length)

/-- Groups in hex between colons. -/
def colonHex (groups : List UInt16) : List Char :=
  [':'].intercalate (groups.map fun g => Nat.toDigits 16 g.toNat)

/-- The IPv4 address an IPv4-mapped address carries. -/
def mapped? (addr : Ipv6) : Option Ipv4 :=
  match addr.groups.toList with
  | [0, 0, 0, 0, 0, 0xFFFF, high, low] =>
    some ⟨UInt8.ofNat (high.toNat / 256), UInt8.ofNat high.toNat,
      UInt8.ofNat (low.toNat / 256), UInt8.ofNat low.toNat⟩
  | _ => none

/-- The compressed form. -/
def text (addr : Ipv6) : String :=
  match addr.mapped? with
  | some v4 => "::ffff:" ++ v4.text
  | none =>
    let groups := addr.groups.toList
    let (start, length) := longestRun 0 groups
    if length > 1 then
      let before := groups.take start
      let after := groups.drop (start + length)
      String.ofList (colonHex before ++ [':', ':'] ++ colonHex after)
    else String.ofList (colonHex groups)

end Ipv6

end SnmpManager
