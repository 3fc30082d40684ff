/-! Decimal integers as a program reads them from text: an optional `+` (and `-` where the
type is signed), then digits only. A text is refused when it is empty, when a character is not
a digit, or when the value leaves the type's range, whichever comes first in the text. -/
namespace DatasetProposals
namespace Text

/-- Why a text is not a number. -/
inductive NumberFault where
  | empty | invalidDigit | tooLarge | tooSmall
  deriving Repr, BEq, Inhabited

def NumberFault.message : NumberFault → String
  | .empty => "cannot parse integer from empty string"
  | .invalidDigit => "invalid digit found in string"
  | .tooLarge => "number too large to fit in target type"
  | .tooSmall => "number too small to fit in target type"

def magnitude (bound : Nat) (excess : NumberFault) : List Char → Nat → Except NumberFault Nat
  | [], acc => .ok acc
  | c :: rest, acc =>
    if !c.isDigit then .error .invalidDigit
    else
      let acc := acc * 10 + (c.toNat - '0'.toNat)
      if acc > bound then .error excess else magnitude bound excess rest acc

def readInteger (signed : Bool) (minMagnitude maxValue : Nat) (s : String) :
    Except NumberFault Int :=
  match s.toList with
  | [] => .error .empty
  | ['+'] | ['-'] => .error .invalidDigit
  | '+' :: ds => (magnitude maxValue .tooLarge ds 0).map Int.ofNat
  | '-' :: ds =>
    if signed then (magnitude minMagnitude .tooSmall ds 0).map (fun n => -(Int.ofNat n))
    else .error .invalidDigit
  | ds => (magnitude maxValue .tooLarge ds 0).map Int.ofNat

def intText (i : Int) : String := if i < 0 then "-" ++ toString i.natAbs else toString i.natAbs

end Text
end DatasetProposals
