import DatasetProposals.Http.Message
import DatasetProposals.Text.Blank
import DatasetProposals.Text.Decimal
/-! The caller's identity, as the authorizer in front of the service forwards it in headers, and
the publishing workspace it may act in. -/
namespace DatasetProposals
namespace Http

/-- A refusal of the interface: a missing or insufficient identity, or a bad request. -/
inductive Refusal where
  | unauthorized (message : String)
  | badRequest (message : String)
  deriving Repr, BEq, Inhabited

/-- The identity claims of one request. -/
structure Claims where
  userId : Int
  organizationId : Option Int
  organizationNodeId : Option String
  publisher : Bool
  deriving Repr, BEq, Inhabited

/-- The workspace a publisher acts for; its id is also its repository's id. -/
structure Workspace where
  id : Int
  nodeId : String
  deriving Repr, BEq, Inhabited

def readSigned64? (s : String) : Option Int :=
  match Text.readInteger true 9223372036854775808 9223372036854775807 s with
  | .ok n => some n
  | .error _ => none

namespace Claims

def claimText? (r : Request) (name : String) : Option String :=
  (r.headerText? name).map Text.trim |>.filter (!·.isEmpty)

def ofRequest (r : Request) : Except Refusal Claims :=
  match (claimText? r "x-user-id").bind readSigned64? with
  | none => .error (.unauthorized "missing or invalid user claim")
  | some userId =>
    .ok { userId
          organizationId := (claimText? r "x-organization-id").bind readSigned64?
          organizationNodeId := claimText? r "x-organization-node-id"
          publisher := (claimText? r "x-publisher").any (Status.equalsIgnoringAsciiCase "true") }

def publishingWorkspace (c : Claims) : Except Refusal Workspace :=
  if !c.publisher then .error (.unauthorized "publisher role required")
  else
    match c.organizationId, c.organizationNodeId with
    | some id, some nodeId => .ok ⟨id, nodeId⟩
    | _, _ => .error (.unauthorized "missing organization claim")

end Claims

end Http
end DatasetProposals
