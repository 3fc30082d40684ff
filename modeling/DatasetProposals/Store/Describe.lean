import DatasetProposals.Proposal.Record
import DatasetProposals.Store.Error
/-! Diagnostic texts of stored records, store errors and call outcomes, as the store contract
prints them in its failure messages. -/
namespace DatasetProposals
open Json

def describeList (f : α → String) (xs : List α) : String :=
  "[" ++ ", ".intercalate (xs.map f) ++ "]"

def describeRecord (name : String) (fields : List (String × String)) : String :=
  name ++ " \x7b " ++ ", ".intercalate (fields.map fun (k, v) => k ++ ": " ++ v) ++ " \x7d"

def SurveyAnswer.describe (a : SurveyAnswer) : String :=
  describeRecord "SurveyAnswer" [("question_id", toString a.questionId), ("response", debugQuote a.response)]

def Contributor.describe (c : Contributor) : String :=
  describeRecord "Contributor" [("first_name", debugQuote c.firstName),
    ("last_name", debugQuote c.lastName), ("email_address", debugQuote c.emailAddress)]

def Proposal.describe (p : Proposal) : String :=
  describeRecord "DatasetProposalRecord"
    [("user_id", toString p.userId), ("node_id", debugQuote p.nodeId),
     ("owner_name", debugQuote p.ownerName), ("email_address", debugQuote p.emailAddress),
     ("name", debugQuote p.name), ("description", debugQuote p.description),
     ("repository_id", toString p.repositoryId),
     ("organization_node_id", debugQuote p.organizationNodeId),
     ("dataset_node_id", debugQuote p.datasetNodeId), ("proposal_status", p.status.debugName),
     ("survey", describeList SurveyAnswer.describe p.survey),
     ("contributors", describeList Contributor.describe p.contributors),
     ("created_at", toString p.createdAt), ("updated_at", toString p.updatedAt),
     ("submitted_at", toString p.submittedAt), ("withdrawn_at", toString p.withdrawnAt),
     ("accepted_at", toString p.acceptedAt), ("rejected_at", toString p.rejectedAt)]

def StorageError.describe : StorageError → String
  | .notFound c k => describeRecord "NotFound" [("collection", debugQuote c), ("key", debugQuote k)]
  | .ambiguous c k n =>
    describeRecord "Ambiguous" [("collection", debugQuote c), ("key", debugQuote k), ("count", toString n)]
  | .alreadyExists u n => describeRecord "AlreadyExists" [("user_id", toString u), ("node_id", debugQuote n)]
  | .conflict u n e =>
    describeRecord "Conflict" [("user_id", toString u), ("node_id", debugQuote n), ("expected", e.debugName)]
  | .backend m => "Backend(" ++ debugQuote m ++ ")"

def describeOutcome (f : α → String) : Except StorageError α → String
  | .ok a => "Ok(" ++ f a ++ ")"
  | .error e => "Err(" ++ e.describe ++ ")"

def describeUnit (_ : Unit) : String := "()"

end DatasetProposals
