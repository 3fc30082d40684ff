/-! The steps of provisioning a dataset, and what a directory reports when a call fails. -/
namespace DatasetProposals

/-- The steps of provisioning a dataset for an accepted proposal, in execution order. -/
inductive ProvisionStep where
  | resolveUser
  | resolveOrganization
  | addGuestMembership
  | resolveDatasetStatus
  | resolveDataUseAgreement
  | createDataset
  | addContributor
  | attachContributor
  | addOwner
  deriving Repr, DecidableEq, Inhabited

namespace ProvisionStep

def order : List ProvisionStep :=
  [.resolveUser, .resolveOrganization, .addGuestMembership, .resolveDatasetStatus,
   .resolveDataUseAgreement, .createDataset, .addContributor, .attachContributor, .addOwner]

def name : ProvisionStep → String
  | .resolveUser => "resolve user"
  | .resolveOrganization => "resolve organization"
  | .addGuestMembership => "add guest membership"
  | .resolveDatasetStatus => "resolve default dataset status"
  | .resolveDataUseAgreement => "resolve default data use agreement"
  | .createDataset => "create dataset"
  | .addContributor => "add contributor"
  | .attachContributor => "attach contributor to dataset"
  | .addOwner => "add dataset owner"

def ofName? (s : String) : Option ProvisionStep := order.find? (·.name == s)

end ProvisionStep

/-- A failed directory call. -/
inductive DirectoryError where
  | userNotFound (userId : Int)
  | organizationNotFound (key : String)
  | stepFailed (step : ProvisionStep) (message : String)
  | backend (message : String)
  deriving Repr, BEq, Inhabited

namespace DirectoryError

def message : DirectoryError → String
  | .userNotFound u => s!"user {u} not found"
  | .organizationNotFound k => "organization not found: " ++ k
  | .stepFailed s m => "dataset provisioning failed at step '" ++ s.name ++ "': " ++ m
  | .backend m => "relational backend error: " ++ m

def kind : DirectoryError → String
  | .userNotFound _ => "UserNotFound"
  | .organizationNotFound _ => "OrganizationNotFound"
  | .stepFailed .. => "StepFailed"
  | .backend _ => "Backend"

def failedStep? : DirectoryError → Option ProvisionStep
  | .stepFailed s _ => some s
  | _ => none

end DirectoryError

end DatasetProposals
