import DatasetProposals.Json.Decode
import DatasetProposals.Proposal.Status
/-! A dataset proposal as the document store keeps it (`Proposal`, keyed by `ProposalKey`), and as
clients see it (`ProposalDto`). -/
namespace DatasetProposals
open Json

/-- An answer to one survey question. -/
structure SurveyAnswer where
  questionId : Int
  response : String
  deriving Repr, BEq, Inhabited

/-- A dataset contributor. -/
structure Contributor where
  firstName : String
  lastName : String
  emailAddress : String
  deriving Repr, BEq, Inhabited

/-- The primary key of a stored proposal. -/
structure ProposalKey where
  userId : Int
  nodeId : String
  deriving Repr, BEq, DecidableEq, Inhabited

def ProposalKey.lt (a b : ProposalKey) : Bool :=
  a.userId < b.userId || (a.userId == b.userId && a.nodeId < b.nodeId)

/-- A stored dataset proposal. -/
structure Proposal where
  userId : Int
  nodeId : String
  ownerName : String
  emailAddress : String
  name : String
  description : String
  repositoryId : Int
  organizationNodeId : String
  datasetNodeId : String
  status : Status
  survey : List SurveyAnswer
  contributors : List Contributor
  createdAt : Int
  updatedAt : Int
  submittedAt : Int
  withdrawnAt : Int
  acceptedAt : Int
  rejectedAt : Int
  deriving Repr, BEq, Inhabited

/-- A proposal as clients see it. -/
structure ProposalDto where
  userId : Int
  proposalNodeId : String
  ownerName : String
  emailAddress : String
  name : String
  description : String
  repositoryId : Int
  organizationNodeId : String
  datasetNodeId : String
  status : Status
  survey : List SurveyAnswer
  contributors : List Contributor
  createdAt : Int
  updatedAt : Int
  submittedAt : Int
  withdrawnAt : Int
  acceptedAt : Int
  rejectedAt : Int
  deriving Repr, BEq, Inhabited

def Proposal.empty : Proposal :=
  ⟨0, "", "", "", "", "", 0, "", "", .draft, [], [], 0, 0, 0, 0, 0, 0⟩

def ProposalDto.empty : ProposalDto :=
  ⟨0, "", "", "", "", "", 0, "", "", .draft, [], [], 0, 0, 0, 0, 0, 0⟩

namespace Proposal

def key (p : Proposal) : ProposalKey := ⟨p.userId, p.nodeId⟩

def toDto (p : Proposal) : ProposalDto :=
  ⟨p.userId, p.nodeId, p.ownerName, p.emailAddress, p.name, p.description, p.repositoryId,
   p.organizationNodeId, p.datasetNodeId, p.status, p.survey, p.contributors, p.createdAt,
   p.updatedAt, p.submittedAt, p.withdrawnAt, p.acceptedAt, p.rejectedAt⟩

end Proposal

namespace ProposalDto

def key (d : ProposalDto) : ProposalKey := ⟨d.userId, d.proposalNodeId⟩

def toProposal (d : ProposalDto) : Proposal :=
  ⟨d.userId, d.proposalNodeId, d.ownerName, d.emailAddress, d.name, d.description,
   d.repositoryId, d.organizationNodeId, d.datasetNodeId, d.status, d.survey, d.contributors,
   d.createdAt, d.updatedAt, d.submittedAt, d.withdrawnAt, d.acceptedAt, d.rejectedAt⟩

end ProposalDto

namespace SurveyAnswer

def toJson (a : SurveyAnswer) : Json :=
  .obj [("QuestionId", .int a.questionId), ("Response", .str a.response)]

def decoder : Decoder SurveyAnswer := fun d => do
  let s ← readRecord "struct SurveyAnswer"
    [FieldSpec.req "QuestionId" Decoder.int64, FieldSpec.req "Response" Decoder.string] d
  return ⟨← slotValue s 0 Decoder.int64 0, ← slotValue s 1 Decoder.string ""⟩

def formDecoder : Decoder SurveyAnswer := fun d => do
  let s ← readRecord "struct SurveyDto"
    [FieldSpec.req "QuestionId" Decoder.int64, FieldSpec.opt "Response" Decoder.string] d
  return ⟨← slotValue s 0 Decoder.int64 0, ← slotValue s 1 Decoder.string ""⟩

end SurveyAnswer

namespace Contributor

def toJson (c : Contributor) : Json :=
  .obj [("FirstName", .str c.firstName), ("LastName", .str c.lastName),
    ("EmailAddress", .str c.emailAddress)]

def fieldsWith (optional : Bool) : List FieldSpec :=
  [FieldSpec.named ["FirstName"] optional Decoder.string,
   FieldSpec.named ["LastName"] optional Decoder.string,
   FieldSpec.named ["EmailAddress"] optional Decoder.string]

def build (s : List (Option Doc)) : Except DecodeError Contributor := do
  return ⟨← slotValue s 0 Decoder.string "", ← slotValue s 1 Decoder.string "",
    ← slotValue s 2 Decoder.string ""⟩

def decoder : Decoder Contributor := fun d => do
  build (← readRecord "struct Contributor" (fieldsWith false) d)

def formDecoder : Decoder Contributor := fun d => do
  build (← readRecord "struct ContributorDto" (fieldsWith true) d)

end Contributor

def statusNames : List String := Status.all.map Status.name

def statusDecoder : Decoder Status := fun d => do
  let n ← Decoder.variant statusNames d
  return (Status.ofName? n).getD .draft

def storedStatusDecoder : Decoder Status := fun d => do
  let n ← Decoder.storedVariant statusNames d
  return (Status.ofName? n).getD .draft

namespace Proposal

def toJson (p : Proposal) : Json :=
  .obj [("UserId", .int p.userId), ("NodeId", .str p.nodeId), ("OwnerName", .str p.ownerName),
    ("EmailAddress", .str p.emailAddress), ("Name", .str p.name),
    ("Description", .str p.description), ("RepositoryId", .int p.repositoryId),
    ("OrganizationNodeId", .str p.organizationNodeId), ("DatasetNodeId", .str p.datasetNodeId),
    ("ProposalStatus", .str p.status.name), ("Survey", .arr (p.survey.map SurveyAnswer.toJson)),
    ("Contributors", .arr (p.contributors.map Contributor.toJson)),
    ("CreatedAt", .int p.createdAt), ("UpdatedAt", .int p.updatedAt),
    ("SubmittedAt", .int p.submittedAt), ("WithdrawnAt", .int p.withdrawnAt),
    ("AcceptedAt", .int p.acceptedAt), ("RejectedAt", .int p.rejectedAt)]

def fieldsWith (status : Decoder Status) : List FieldSpec :=
  [FieldSpec.req "UserId" Decoder.int64, FieldSpec.req "NodeId" Decoder.string,
   FieldSpec.req "OwnerName" Decoder.string, FieldSpec.req "EmailAddress" Decoder.string,
   FieldSpec.req "Name" Decoder.string, FieldSpec.req "Description" Decoder.string,
   FieldSpec.req "RepositoryId" Decoder.int64, FieldSpec.req "OrganizationNodeId" Decoder.string,
   FieldSpec.opt "DatasetNodeId" Decoder.string, FieldSpec.req "ProposalStatus" status,
   FieldSpec.opt "Survey" (Decoder.list SurveyAnswer.decoder),
   FieldSpec.opt "Contributors" (Decoder.list Contributor.decoder),
   FieldSpec.req "CreatedAt" Decoder.int64, FieldSpec.req "UpdatedAt" Decoder.int64,
   FieldSpec.opt "SubmittedAt" Decoder.int64, FieldSpec.opt "WithdrawnAt" Decoder.int64,
   FieldSpec.opt "AcceptedAt" Decoder.int64, FieldSpec.opt "RejectedAt" Decoder.int64]

def decoderWith (status : Decoder Status) : Decoder Proposal := fun d => do
  let s ← readRecord "struct DatasetProposalRecord" (fieldsWith status) d
  return {
    userId := ← slotValue s 0 Decoder.int64 0
    nodeId := ← slotValue s 1 Decoder.string ""
    ownerName := ← slotValue s 2 Decoder.string ""
    emailAddress := ← slotValue s 3 Decoder.string ""
    name := ← slotValue s 4 Decoder.string ""
    description := ← slotValue s 5 Decoder.string ""
    repositoryId := ← slotValue s 6 Decoder.int64 0
    organizationNodeId := ← slotValue s 7 Decoder.string ""
    datasetNodeId := ← slotValue s 8 Decoder.string ""
    status := ← slotValue s 9 status .draft
    survey := ← slotValue s 10 (Decoder.list SurveyAnswer.decoder) []
    contributors := ← slotValue s 11 (Decoder.list Contributor.decoder) []
    createdAt := ← slotValue s 12 Decoder.int64 0
    updatedAt := ← slotValue s 13 Decoder.int64 0
    submittedAt := ← slotValue s 14 Decoder.int64 0
    withdrawnAt := ← slotValue s 15 Decoder.int64 0
    acceptedAt := ← slotValue s 16 Decoder.int64 0
    rejectedAt := ← slotValue s 17 Decoder.int64 0 }

def decoder : Decoder Proposal := decoderWith statusDecoder

def storedDecoder : Decoder Proposal := decoderWith storedStatusDecoder

end Proposal

namespace ProposalKey

def toJson (k : ProposalKey) : Json := .obj [("UserId", .int k.userId), ("NodeId", .str k.nodeId)]

end ProposalKey

namespace ProposalDto

def toJson (p : ProposalDto) : Json :=
  .obj [("UserId", .int p.userId), ("ProposalNodeId", .str p.proposalNodeId),
    ("OwnerName", .str p.ownerName), ("EmailAddress", .str p.emailAddress),
    ("Name", .str p.name), ("Description", .str p.description),
    ("RepositoryId", .int p.repositoryId), ("OrganizationNodeId", .str p.organizationNodeId),
    ("DatasetNodeId", .str p.datasetNodeId), ("Status", .str p.status.name),
    ("Survey", .arr (p.survey.map SurveyAnswer.toJson)),
    ("Contributors", .arr (p.contributors.map Contributor.toJson)),
    ("CreatedAt", .int p.createdAt), ("UpdatedAt", .int p.updatedAt),
    ("SubmittedAt", .int p.submittedAt), ("WithdrawnAt", .int p.withdrawnAt),
    ("AcceptedAt", .int p.acceptedAt), ("RejectedAt", .int p.rejectedAt)]

def fields : List FieldSpec :=
  [FieldSpec.opt "UserId" Decoder.int64,
   FieldSpec.named ["ProposalNodeId", "NodeId"] true Decoder.string,
   FieldSpec.opt "OwnerName" Decoder.string, FieldSpec.opt "EmailAddress" Decoder.string,
   FieldSpec.opt "Name" Decoder.string, FieldSpec.opt "Description" Decoder.string,
   FieldSpec.opt "RepositoryId" Decoder.int64, FieldSpec.opt "OrganizationNodeId" Decoder.string,
   FieldSpec.opt "DatasetNodeId" Decoder.string,
   FieldSpec.named ["Status", "ProposalStatus"] true statusDecoder,
   FieldSpec.opt "Survey" (Decoder.list SurveyAnswer.formDecoder),
   FieldSpec.opt "Contributors" (Decoder.list Contributor.formDecoder),
   FieldSpec.opt "CreatedAt" Decoder.int64, FieldSpec.opt "UpdatedAt" Decoder.int64,
   FieldSpec.opt "SubmittedAt" Decoder.int64, FieldSpec.opt "WithdrawnAt" Decoder.int64,
   FieldSpec.opt "AcceptedAt" Decoder.int64, FieldSpec.opt "RejectedAt" Decoder.int64]

def decoder : Decoder ProposalDto := fun d => do
  let s ← readRecord "struct DatasetProposalDto" fields d
  return {
    userId := ← slotValue s 0 Decoder.int64 0
    proposalNodeId := ← slotValue s 1 Decoder.string ""
    ownerName := ← slotValue s 2 Decoder.string ""
    emailAddress := ← slotValue s 3 Decoder.string ""
    name := ← slotValue s 4 Decoder.string ""
    description := ← slotValue s 5 Decoder.string ""
    repositoryId := ← slotValue s 6 Decoder.int64 0
    organizationNodeId := ← slotValue s 7 Decoder.string ""
    datasetNodeId := ← slotValue s 8 Decoder.string ""
    status := ← slotValue s 9 statusDecoder .draft
    survey := ← slotValue s 10 (Decoder.list SurveyAnswer.formDecoder) []
    contributors := ← slotValue s 11 (Decoder.list Contributor.formDecoder) []
    createdAt := ← slotValue s 12 Decoder.int64 0
    updatedAt := ← slotValue s 13 Decoder.int64 0
    submittedAt := ← slotValue s 14 Decoder.int64 0
    withdrawnAt := ← slotValue s 15 Decoder.int64 0
    acceptedAt := ← slotValue s 16 Decoder.int64 0
    rejectedAt := ← slotValue s 17 Decoder.int64 0 }

end ProposalDto

end DatasetProposals
