import DatasetProposals.Text.Binary
/-! The fewest decimal digits that name a double, and the layouts (`FloatFormat`) a double is
written in with them. -/
namespace DatasetProposals
namespace Text

def shortestOf (x : Binary) : Nat × Int :=
  let s := x.significand
  let p := x.exponent - 2
  -- the interval ends and the value, in units of 2^p
  let lowUnits := if s == Nat.pow 2 52 && x.exponent > Binary.minExponent then 4 * s - 1 else 4 * s - 2
  let highUnits := 4 * s + 2
  let inclusive := s % 2 == 0
  let (twoNum, twoDen) := powerFactors 2 p
  let top := floorLog10 (4 * s * twoNum) twoDen
  -- the candidate with `n` digits nearest to the value, and whether it reads back
  let attempt (n : Nat) : Nat × Int × Bool :=
    let j := top - ((n - 1 : Nat) : Int)
    let (tenDen, tenNum) := powerFactors 10 j
    let den := twoDen * tenDen
    let scaled (units : Nat) := units * twoNum * tenNum
    let low := if inclusive then ceilDiv (scaled lowUnits) den else scaled lowUnits / den + 1
    let high := if inclusive then scaled highUnits / den else ceilDiv (scaled highUnits) den - 1
    let nearest := roundDiv (scaled (4 * s)) den
    (min high (max low nearest), j, low ≤ high)
  let rec search : Nat → Nat → Nat × Int
    | 0, n => let (t, j, _) := attempt n; (t, j)
    | fuel + 1, n =>
      match attempt n with
      | (t, j, true) => (t, j)
      | (_, _, false) => search fuel (n + 1)
  search 16 1

def trimZeros (mantissa : Nat) (exponent : Int) : Nat → Nat × Int
  | 0 => (mantissa, exponent)
  | fuel + 1 =>
    if mantissa ≠ 0 && mantissa % 10 = 0 then trimZeros (mantissa / 10) (exponent + 1) fuel
    else (mantissa, exponent)

def Binary.shortest (x : Binary) : Nat × Int :=
  if x.isZero then (0, 0)
  else
    let (t, j) := shortestOf x
    trimZeros t j 20

def zeros (k : Nat) : String := String.ofList (List.replicate k '0')

/-- How a double is written with its fewest digits. When the decimal exponent (the power of ten
of the leading digit) lies in `positional`, or always when that is `none`, the value is written
positionally: an integral value ends in `.0`, a value below one starts with `0.`. Otherwise it
is `d.ddde±x`: the point only when there are several digits, the exponent always signed and
padded with zeros to `exponentDigits`. Zero is `0.0`, and a negative value, zero included,
has a minus sign. -/
structure FloatFormat where
  positional : Option (Int × Int)
  exponentDigits : Nat
  deriving Repr, Inhabited

def positionalText (ds : String) (e : Int) : String :=
  let point := (ds.length : Int) + e
  if 0 ≤ e then ds ++ zeros e.toNat ++ ".0"
  else if 0 < point then
    String.ofList (ds.toList.take point.toNat) ++ "." ++ String.ofList (ds.toList.drop point.toNat)
  else "0." ++ zeros point.natAbs ++ ds

def scientificText (width : Nat) (ds : String) (e : Int) : String :=
  let x := (ds.length : Int) + e - 1
  let expDigits := toString x.natAbs
  let padded := zeros (width - expDigits.length) ++ expDigits
  String.ofList (ds.toList.take 1) ++
    (if ds.length > 1 then "." ++ String.ofList (ds.toList.drop 1) else "") ++
    "e" ++ (if x < 0 then "-" else "+") ++ padded

def Double.write (f : FloatFormat) (x : Double) : String :=
  let sign := if x.negative then "-" else ""
  let (m, e) := x.magnitude.shortest
  if m == 0 then sign ++ "0.0"
  else
    let ds := toString m
    let leading := (ds.length : Int) + e - 1
    let positional := match f.positional with
      | none => true
      | some (lo, hi) => lo ≤ leading && leading ≤ hi
    sign ++ (if positional then positionalText ds e else scientificText f.exponentDigits ds e)

end Text
end DatasetProposals
