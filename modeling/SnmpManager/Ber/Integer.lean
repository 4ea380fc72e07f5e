import SnmpManager.Octets

/-!
# Integer content octets

Two's complement, most significant octet first.

- `Integer.octets n` is the shortest form that holds `n`; a number of 64 bits
  takes at most nine octets, the ninth only for an unsigned one.
- `Integer.ofOctets` reads a form of any length.
-/

namespace SnmpManager.Integer

/-- The shortest form, if `fuel` octets are enough for it. -/
def octetsWithin : (fuel : Nat) → Int → Octets
  | 0, _ => []
  | fuel + 1, n =>
    if -128 ≤ n ∧ n < 128 then [UInt8.ofNat (n % 256).toNat]
    else octetsWithin fuel (n / 256) ++ [UInt8.ofNat (n % 256).toNat]

/-- The shortest two's complement form of a number of 64 bits, signed or unsigned. -/
def octets (n : Int) : Octets :=
  octetsWithin 9 n

/-- The number a two's complement form denotes. -/
def ofOctets (content : Octets) : Int :=
  let start : Int := match content with
    | first :: _ => if first ≥ 0x80 then -1 else 0
    | [] => 0
  content.foldl (fun n b => n * 256 + (b.toNat : Int)) start

end SnmpManager.Integer
