import DatasetProposals.Json.Decode
/-! The catalog a proposal is written against: information documents, the repositories that
receive proposals, and the survey questions they ask. Records are written with the document
store's member names, in declaration order. -/
namespace DatasetProposals
open Json

/-- A file in object storage, by bucket and key. -/
structure FileLocation where
  bucket : String
  key : String
  deriving Repr, BEq, Inhabited

/-- A publishing information document (a guide, terms, a FAQ). -/
structure InfoRecord where
  tag : String
  kind : String
  file : FileLocation
  deriving Repr, BEq, Inhabited

/-- A repository: the workspace a proposal is submitted to. `questions` lists, in display
order, the ids of the questions a proposal must answer before submission. -/
structure RepositoryRecord where
  organizationNodeId : String
  repositoryId : Int
  name : String
  displayName : String
  kind : String
  description : String
  url : String
  overviewDocument : FileLocation
  logoFile : FileLocation
  questions : List Int
  createdAt : Int
  updatedAt : Int
  deriving Repr, BEq, Inhabited

/-- A survey question. -/
structure QuestionRecord where
  id : Int
  question : String
  kind : String
  deriving Repr, BEq, Inhabited

namespace FileLocation

def toJson (f : FileLocation) : Json := .obj [("s3bucket", .str f.bucket), ("s3Key", .str f.key)]

def decoder : Decoder FileLocation := fun d => do
  let slots ← readRecord "struct FileLocation"
    [FieldSpec.req "s3bucket" Decoder.string, FieldSpec.req "s3Key" Decoder.string] d
  return ⟨← slotValue slots 0 Decoder.string "", ← slotValue slots 1 Decoder.string ""⟩

end FileLocation

namespace InfoRecord

def toJson (r : InfoRecord) : Json :=
  .obj [("Tag", .str r.tag), ("Type", .str r.kind), ("File", r.file.toJson)]

def decoder : Decoder InfoRecord := fun d => do
  let slots ← readRecord "struct InfoRecord"
    [FieldSpec.req "Tag" Decoder.string, FieldSpec.req "Type" Decoder.string,
     FieldSpec.req "File" FileLocation.decoder] d
  return ⟨← slotValue slots 0 Decoder.string "", ← slotValue slots 1 Decoder.string "",
    ← slotValue slots 2 FileLocation.decoder default⟩

end InfoRecord

namespace RepositoryRecord

def toJson (r : RepositoryRecord) : Json :=
  .obj [("OrganizationNodeId", .str r.organizationNodeId), ("RepositoryId", .int r.repositoryId),
    ("Name", .str r.name), ("DisplayName", .str r.displayName), ("Type", .str r.kind),
    ("Description", .str r.description), ("URL", .str r.url),
    ("OverviewDocument", r.overviewDocument.toJson), ("LogoFile", r.logoFile.toJson),
    ("Questions", .arr (r.questions.map .int)), ("CreatedAt", .int r.createdAt),
    ("UpdatedAt", .int r.updatedAt)]

def fields : List FieldSpec :=
  [FieldSpec.req "OrganizationNodeId" Decoder.string, FieldSpec.req "RepositoryId" Decoder.int64,
   FieldSpec.req "Name" Decoder.string, FieldSpec.req "DisplayName" Decoder.string,
   FieldSpec.req "Type" Decoder.string, FieldSpec.req "Description" Decoder.string,
   FieldSpec.req "URL" Decoder.string, FieldSpec.req "OverviewDocument" FileLocation.decoder,
   FieldSpec.req "LogoFile" FileLocation.decoder,
   FieldSpec.opt "Questions" (Decoder.list Decoder.int64),
   FieldSpec.req "CreatedAt" Decoder.int64, FieldSpec.req "UpdatedAt" Decoder.int64]

def decoder : Decoder RepositoryRecord := fun d => do
  let s ← readRecord "struct RepositoryRecord" fields d
  return {
    organizationNodeId := ← slotValue s 0 Decoder.string ""
    repositoryId := ← slotValue s 1 Decoder.int64 0
    name := ← slotValue s 2 Decoder.string ""
    displayName := ← slotValue s 3 Decoder.string ""
    kind := ← slotValue s 4 Decoder.string ""
    description := ← slotValue s 5 Decoder.string ""
    url := ← slotValue s 6 Decoder.string ""
    overviewDocument := ← slotValue s 7 FileLocation.decoder default
    logoFile := ← slotValue s 8 FileLocation.decoder default
    questions := ← slotValue s 9 (Decoder.list Decoder.int64) []
    createdAt := ← slotValue s 10 Decoder.int64 0
    updatedAt := ← slotValue s 11 Decoder.int64 0 }

end RepositoryRecord

namespace QuestionRecord

def toJson (q : QuestionRecord) : Json :=
  .obj [("Id", .int q.id), ("Question", .str q.question), ("Type", .str q.kind)]

def decoder : Decoder QuestionRecord := fun d => do
  let s ← readRecord "struct QuestionRecord"
    [FieldSpec.req "Id" Decoder.int64, FieldSpec.req "Question" Decoder.string,
     FieldSpec.req "Type" Decoder.string] d
  return ⟨← slotValue s 0 Decoder.int64 0, ← slotValue s 1 Decoder.string "",
    ← slotValue s 2 Decoder.string ""⟩

end QuestionRecord

end DatasetProposals
