/-!
# MediaSession.Binary32

Single-precision binary numbers as their 32 bits: one sign bit, eight exponent bits, 23 fraction
bits. Values are read and written exactly, as a whole number times a power of two.

* `Binary32.magnitude?`: the finite value behind the bits
* `Binary32.ofScaled`: the bits of a small whole number divided by a power of two
-/

namespace MediaSession

/-- The bits of a single-precision number. -/
structure Binary32 where
  bits : UInt32
deriving DecidableEq

namespace Binary32

def isNegative (x : Binary32) : Bool := 0x80000000 ≤ x.bits.toNat

/-- The exponent bits; 255 stands for infinities and for what is no number. -/
def exponentBits (x : Binary32) : Nat := x.bits.toNat / 0x800000 % 256

def fractionBits (x : Binary32) : Nat := x.bits.toNat % 0x800000

/-- A pair `(m, e)` such that the number without its sign is `m * 2 ^ (e - 149)`. -/
def magnitude? (x : Binary32) : Option (Nat × Nat) :=
  if x.exponentBits = 255 then none
  else if x.exponentBits = 0 then some (x.fractionBits, 0)
  else some (x.fractionBits + 0x800000, x.exponentBits - 1)

/-- The bits of `n / 2 ^ scale`, for `n` of at most 24 binary digits and `scale` at most 126. -/
def ofScaled (n : Int) (scale : Nat) : Binary32 :=
  if n = 0 then ⟨0⟩
  else
    let m := n.natAbs
    let k := m.log2
    let sign := if n < 0 then 0x80000000 else 0
    ⟨UInt32.ofNat (sign + (127 + k - scale) * 0x800000 + (m * Nat.pow 2 (23 - k) - 0x800000))⟩

end Binary32
end MediaSession
