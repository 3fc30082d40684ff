/-! Sets of code points written as inversion lists, with membership by binary search. -/
namespace DatasetProposals
namespace Text

def countAtMostFrom (bounds : Array Nat) (c : Nat) (lo hi : Nat) : Nat :=
  if lo < hi then
    if bounds.getD ((lo + hi) / 2) 0 ≤ c then countAtMostFrom bounds c ((lo + hi) / 2 + 1) hi
    else countAtMostFrom bounds c lo ((lo + hi) / 2)
  else lo
termination_by hi - lo
decreasing_by
  all_goals omega

def inversionContains (bounds : Array Nat) (c : Nat) : Bool :=
  countAtMostFrom bounds c 0 bounds.size % 2 == 1

end Text
end DatasetProposals
