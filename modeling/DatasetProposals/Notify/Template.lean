import DatasetProposals.Notify.Attributes
/-! Email templates and the lifecycle events that send them; rendering replaces every `${key}` by
its attribute, once. -/
namespace DatasetProposals

/-- The four lifecycle events that produce an email. -/
inductive Event where
  | submitted
  | withdrawn
  | accepted
  | rejected
  deriving Repr, DecidableEq, Inhabited

namespace Event

def all : List Event := [.submitted, .withdrawn, .accepted, .rejected]

def name : Event → String
  | .submitted => "submitted"
  | .withdrawn => "withdrawn"
  | .accepted => "accepted"
  | .rejected => "rejected"

def subject : Event → String
  | .submitted => "A Dataset Proposal has been submitted"
  | .withdrawn => "A Dataset Proposal has been withdrawn"
  | .accepted => "Your Dataset Proposal has been accepted"
  | .rejected => "Your Dataset Proposal has been rejected"

def ofName? (s : String) : Option Event := all.find? (·.name == s)

end Event

def renderChars (attrs : Attributes) : Option (List Char) → List Char → List Char
  | none, '$' :: '{' :: rest => renderChars attrs (some []) rest
  | none, c :: rest => c :: renderChars attrs none rest
  | none, [] => []
  | some key, '}' :: rest =>
    let k := String.ofList key.reverse
    let text := match attrs.get? k with
      | some v => v.toList
      | none => '$' :: '{' :: key.reverse ++ ['}']
    text ++ renderChars attrs none rest
  | some key, c :: rest => renderChars attrs (some (c :: key)) rest
  | some key, [] => '$' :: '{' :: key.reverse

def render (template : String) (attrs : Attributes) : String :=
  String.ofList (renderChars attrs none template.toList)

end DatasetProposals
