/-! Doubles as exact numbers, with every operation the exact one followed by rounding to nearest,
ties to even. -/
namespace DatasetProposals
namespace Text

def roundDiv (n d : Nat) : Nat :=
  let q := n / d
  let r := n % d
  if 2 * r > d then q + 1
  else if 2 * r < d then q
  else if q % 2 == 0 then q else q + 1

def ceilDiv (n d : Nat) : Nat := (n + d - 1) / d

def decimalLength (n : Nat) : Nat := (toString n).length

def powerFactors (base : Nat) (k : Int) : Nat × Nat :=
  if 0 ≤ k then (Nat.pow base k.toNat, 1) else (1, Nat.pow base k.natAbs)

def floorLog10 (num den : Nat) : Int :=
  let k : Int := (decimalLength num : Int) - decimalLength den
  let (a, b) := powerFactors 10 k
  if num * b ≥ den * a then k else k - 1

def floorLog2 (num den : Nat) : Int :=
  let k : Int := (num.log2 : Int) - den.log2
  let (a, b) := powerFactors 2 k
  if num * b ≥ den * a then k else k - 1

/-- A double without its sign: the value `significand × 2^exponent`. -/
structure Binary where
  significand : Nat
  exponent : Int
  deriving Repr, BEq, Inhabited

namespace Binary

def zero : Binary := ⟨0, 0⟩

def isZero (x : Binary) : Bool := x.significand == 0

def maxExponent : Int := 971

def minExponent : Int := -1074

def isInfinite (x : Binary) : Bool := x.exponent > maxExponent

def ratio (x : Binary) : Nat × Nat :=
  let (a, b) := powerFactors 2 x.exponent
  (x.significand * a, b)

end Binary

def nearestBinary (num den : Nat) : Binary :=
  if num == 0 then Binary.zero
  else
    let q := max (floorLog2 num den - 52) Binary.minExponent
    let (a, b) := powerFactors 2 (-q)
    let s := roundDiv (num * a) (den * b)
    if s == Nat.pow 2 53 then ⟨Nat.pow 2 52, q + 1⟩ else ⟨s, q⟩

namespace Binary

def ofNat (n : Nat) : Binary := nearestBinary n 1

def mul (x y : Binary) : Binary :=
  let (a, b) := x.ratio
  let (c, d) := y.ratio
  nearestBinary (a * c) (b * d)

def div (x y : Binary) : Binary :=
  let (a, b) := x.ratio
  let (c, d) := y.ratio
  nearestBinary (a * d) (b * c)

end Binary

/-- A finite double with its sign. -/
structure Double where
  negative : Bool
  magnitude : Binary
  deriving Repr, BEq, Inhabited

namespace Double

def ofNat (negative : Bool) (n : Nat) : Double := ⟨negative, Binary.ofNat n⟩

def isZero (x : Double) : Bool := x.magnitude.isZero

def equalsInt (x : Double) (n : Int) : Bool :=
  let (num, den) := x.magnitude.ratio
  if x.isZero then n == 0
  else num % den == 0 && (if x.negative then -((num / den : Nat) : Int) else (num / den : Nat)) == n

def sameValue (x y : Double) : Bool :=
  if x.isZero || y.isZero then x.isZero && y.isZero
  else
    let (a, b) := x.magnitude.ratio
    let (c, d) := y.magnitude.ratio
    x.negative == y.negative && a * d == c * b

end Double

end Text
end DatasetProposals
