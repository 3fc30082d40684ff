import DatasetProposals.Text.Shortest
/-! JSON numbers as written, and the double the service's reader makes of them without rounding the
decimal to the nearest. -/
namespace DatasetProposals
namespace Json
open Text

/-- The sign written before an exponent's digits. -/
inductive ExponentSign where
  | unwritten | plus | minus
  deriving Repr, BEq, Inhabited

/-- A JSON number as written: its sign, its integer digits, its fraction digits (none when it
has no point) and its exponent (the sign and digits after `e`, when it has one). -/
structure Numeral where
  negative : Bool
  whole : List Nat
  fraction : List Nat
  exponent : Option (ExponentSign × List Nat)
  deriving Repr, BEq, Inhabited

def u64Max : Nat := 18446744073709551615

def i32Max : Nat := 2147483647

namespace Numeral

def ofNat (n : Nat) : Numeral := ⟨false, (Nat.toDigits 10 n).map (·.toNat - 48), [], none⟩

def length (n : Numeral) : Nat :=
  (if n.negative then 1 else 0) + n.whole.length +
    (if n.fraction.isEmpty then 0 else n.fraction.length + 1) +
    (match n.exponent with
     | none => 0
     | some (.unwritten, ds) => ds.length + 1
     | some (_, ds) => ds.length + 2)

def exponentDigitsStart (n : Numeral) : Nat :=
  (if n.negative then 1 else 0) + n.whole.length +
    (if n.fraction.isEmpty then 0 else n.fraction.length + 1) +
    (match n.exponent with
     | some (.unwritten, _) => 1
     | _ => 2)

end Numeral

/-! The reader's value. -/

def appendOverflows (n d : Nat) : Bool := n * 10 + d > u64Max

def gatherWhole (digits : List Nat) : Nat × Int × Bool :=
  digits.foldl (fun (acc : Nat × Int × Bool) d =>
    let (s, p, spilled) := acc
    if spilled || appendOverflows s d then (s, p + 1, true) else (s * 10 + d, p, false)) (0, 0, false)

def gatherFraction (s : Nat) (p : Int) (digits : List Nat) : Nat × Int :=
  let (s, p, _) := digits.foldl (fun (acc : Nat × Int × Bool) d =>
    let (s, p, stop) := acc
    if stop || appendOverflows s d then (s, p, true) else (s * 10 + d, p - 1, false)) (s, p, false)
  (s, p)

def exponentValue (digits : List Nat) : Except Nat Nat :=
  let rec go : List Nat → Nat → Nat → Except Nat Nat
    | [], acc, _ => .ok acc
    | d :: rest, acc, k => if acc * 10 + d > i32Max then .error (k + 1) else go rest (acc * 10 + d) (k + 1)
  go digits 0 0

def powerOfTen (k : Nat) : Binary := nearestBinary (Nat.pow 10 k) 1

def scaleByPowerOfTen (significand : Nat) (exponent : Int) : Option Binary :=
  let rec go : Nat → Binary → Int → Option Binary
    | 0, f, _ => some f
    | fuel + 1, f, e =>
      if e.natAbs ≤ 308 then
        if 0 ≤ e then
          let r := f.mul (powerOfTen e.toNat)
          if r.isInfinite then none else some r
        else some (f.div (powerOfTen e.natAbs))
      else if f.isZero then some f
      else if 0 ≤ e then none
      else go fuel (f.div (powerOfTen 308)) (e + 308)
  -- two divisions by 10^308 bring every significand to zero
  go 4 (Binary.ofNat significand) exponent

/-- What the reader makes of a numeral. -/
inductive Reading where
  | integer (n : Int)
  | double (x : Double)
  | outOfRange (offset : Nat)
  deriving Repr, BEq, Inhabited

def Numeral.reading (n : Numeral) : Reading :=
  let (s, p, spilled) := gatherWhole n.whole
  let scaled (s : Nat) (e : Int) : Reading :=
    match scaleByPowerOfTen s e with
    | some x => .double ⟨n.negative, x⟩
    | none => .outOfRange n.length
  match n.fraction, n.exponent with
  | [], none =>
    if spilled then scaled s p
    else if !n.negative then .integer s
    else if s == 0 || s > Nat.pow 2 63 then .double (Double.ofNat true s)
    else .integer (-(s : Int))
  | fraction, exponent =>
    let (s, p) := gatherFraction s p fraction
    match exponent with
    | none => scaled s p
    | some (sign, digits) =>
      match exponentValue digits with
      | .error k =>
        if s != 0 && sign != .minus then .outOfRange (n.exponentDigitsStart + k)
        else .double ⟨n.negative, Binary.zero⟩
      | .ok v => scaled s (if sign == .minus then p - v else p + v)

def Numeral.toDouble (n : Numeral) : Double :=
  match n.reading with
  | .double x => x
  | .integer i => Double.ofNat (i < 0) i.natAbs
  | .outOfRange _ => ⟨n.negative, Binary.zero⟩

end Json
end DatasetProposals
