/-! The five lifecycle statuses of a dataset proposal, their upper-case names, and reading a
name back: any ASCII letter case is accepted, nothing is trimmed. -/
namespace DatasetProposals

/-- Where a proposal stands in its lifecycle. -/
inductive Status where
  | draft
  | submitted
  | withdrawn
  | accepted
  | rejected
  deriving Repr, DecidableEq, Inhabited

namespace Status

def all : List Status := [.draft, .submitted, .withdrawn, .accepted, .rejected]

def name : Status → String
  | .draft => "DRAFT"
  | .submitted => "SUBMITTED"
  | .withdrawn => "WITHDRAWN"
  | .accepted => "ACCEPTED"
  | .rejected => "REJECTED"

def debugName : Status → String
  | .draft => "Draft"
  | .submitted => "Submitted"
  | .withdrawn => "Withdrawn"
  | .accepted => "Accepted"
  | .rejected => "Rejected"

instance : ToString Status := ⟨name⟩

def foldAscii (s : String) : String :=
  String.map (fun c => if 'A' ≤ c && c ≤ 'Z' then Char.ofNat (c.toNat + 32) else c) s

def equalsIgnoringAsciiCase (a b : String) : Bool := foldAscii a == foldAscii b

def parse? (s : String) : Option Status :=
  all.find? (fun st => equalsIgnoringAsciiCase st.name s)

def unknownMessage (s : String) : String := "unknown proposal status '" ++ s ++ "'"

def ofName? (s : String) : Option Status := all.find? (fun st => st.name == s)

end Status

end DatasetProposals
