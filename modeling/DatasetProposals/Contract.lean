import DatasetProposals.Service.World
import DatasetProposals.Store.Describe
import DatasetProposals.Text.Search
/-! The contract every proposal store honours, as 23 checks in five groups, each run on a fresh
store seen through the world's fault plan. -/
namespace DatasetProposals
namespace Contract
open Json

abbrev Check := ExceptT String Act

def expect (label : String) (call : Act (Except StorageError α)) : Check α :=
  ExceptT.mk do return (← call).mapError fun e => label ++ ": " ++ e.message

def attempt (call : Act (Except StorageError α)) : Check (Except StorageError α) :=
  ExceptT.lift call

def sample (userId : Int) (nodeId : String) (repositoryId : Int) (status : Status) : Proposal :=
  { Proposal.empty with
    userId := userId, nodeId := nodeId, ownerName := "Test Owner",
    emailAddress := "owner@example.org", name := "Proposal " ++ nodeId,
    description := "conformance", repositoryId := repositoryId,
    organizationNodeId := "N:organization:" ++ toString repositoryId, status := status,
    survey := [⟨1, "answer"⟩], contributors := [⟨"Grace", "Hopper", "grace@example.org"⟩],
    createdAt := 1700000000, updatedAt := 1700000000 }

def nodeIds (ps : List Proposal) : List String := (ps.map (·.nodeId)).mergeSort (· ≤ ·)

def describeTexts (xs : List String) : String := describeList debugQuote xs

def isNotFound : Except StorageError α → Bool
  | .error (.notFound ..) => true
  | _ => false

/-! Creating, reading, replacing and deleting. -/

def createThenGet : Check Unit := do
  let record := sample 42 "N:proposal:a" 7 .draft
  expect "create" (World.create record)
  let stored ← expect "get" (World.proposal 42 "N:proposal:a")
  if !(stored == record) then
    throw ("read back differs: " ++ stored.describe ++ " != " ++ record.describe)

def duplicateCreate : Check Unit := do
  let record := sample 42 "N:proposal:a" 7 .draft
  expect "first create" (World.create record)
  match ← attempt (World.create { record with name := "other" }) with
  | .error (.alreadyExists 42 "N:proposal:a") =>
    let stored ← expect "get" (World.proposal 42 "N:proposal:a")
    if stored.name != record.name then throw "duplicate create overwrote the original"
  | other => throw ("expected AlreadyExists, got " ++ describeOutcome describeUnit other)

def sameNodeOtherUser : Check Unit := do
  expect "create user 1" (World.create (sample 1 "N:proposal:x" 7 .draft))
  expect "create user 2" (World.create (sample 2 "N:proposal:x" 7 .draft))
  let first ← expect "get user 1" (World.proposal 1 "N:proposal:x")
  if first.userId != 1 then throw ("expected user 1, got " ++ toString first.userId)

def updateReplaces : Check Unit := do
  let record := sample 42 "N:proposal:a" 7 .draft
  expect "create" (World.create record)
  let updated := { record with name := "Renamed", survey := [], contributors := [],
                               updatedAt := record.updatedAt + 60 }
  expect "update" (World.update updated)
  let stored ← expect "get" (World.proposal 42 "N:proposal:a")
  if !(stored == updated) then throw ("update not applied: " ++ stored.describe)

def deleteRemoves : Check Unit := do
  let record := sample 42 "N:proposal:a" 7 .submitted
  expect "create" (World.create record)
  expect "delete" (World.delete record.key)
  let after ← attempt (World.proposal 42 "N:proposal:a")
  if !isNotFound after then
    throw ("expected NotFound after delete, got " ++ describeOutcome Proposal.describe after)

def deleteMissing : Check Unit :=
  expect "delete of missing record failed" (World.delete (sample 42 "N:proposal:none" 7 .draft).key)

/-! Missing records. -/

def getMissing : Check Unit := do
  let r ← attempt (World.proposal 42 "N:proposal:missing")
  if !isNotFound r then throw ("expected NotFound, got " ++ describeOutcome Proposal.describe r)

def notFoundNamesKey : Check Unit := do
  match ← attempt (World.proposal 42 "N:proposal:missing") with
  | .error (.notFound _ key) =>
    if !(Text.mentions key "42" && Text.mentions key "N:proposal:missing") then
      throw ("key does not identify the record: " ++ key)
  | other => throw ("expected NotFound, got " ++ describeOutcome Proposal.describe other)

def updateMissing : Check Unit := do
  let record := sample 42 "N:proposal:missing" 7 .draft
  let r ← attempt (World.update record)
  if !isNotFound r then throw ("expected NotFound, got " ++ describeOutcome describeUnit r)
  let after ← attempt (World.proposal 42 "N:proposal:missing")
  if !isNotFound after then
    throw ("update created a record: " ++ describeOutcome Proposal.describe after)

def repositoryLookupMissing : Check Unit := do
  let r ← attempt (World.proposalForRepository 7 .submitted "N:proposal:missing")
  if !isNotFound r then throw ("expected NotFound, got " ++ describeOutcome Proposal.describe r)

/-! Listings and the repository lookup. -/

def seedRecords : List Proposal :=
  [sample 1 "N:proposal:1a" 7 .draft, sample 1 "N:proposal:1b" 7 .submitted,
   sample 2 "N:proposal:2a" 7 .submitted, sample 2 "N:proposal:2b" 8 .submitted,
   sample 3 "N:proposal:3a" 7 .accepted]

def seed : Check Unit :=
  seedRecords.forM fun r => expect ("seed " ++ r.nodeId) (World.create r)

def userListing : Check Unit := do
  seed
  let found ← expect "list" (World.proposalsForUser 1)
  let ids := nodeIds found
  if ids != ["N:proposal:1a", "N:proposal:1b"] then
    throw ("unexpected user listing: " ++ describeTexts ids)

def workspaceListing : Check Unit := do
  seed
  let found ← expect "list" (World.proposalsForWorkspace "N:organization:7" .submitted)
  let ids := nodeIds found
  if ids != ["N:proposal:1b", "N:proposal:2a"] then
    throw ("unexpected workspace listing: " ++ describeTexts ids)
  let accepted ← expect "list accepted" (World.proposalsForWorkspace "N:organization:7" .accepted)
  if nodeIds accepted != ["N:proposal:3a"] then
    throw ("unexpected accepted listing: " ++ describeList Proposal.describe accepted)

def unknownWorkspace : Check Unit := do
  seed
  let found ← expect "list" (World.proposalsForWorkspace "N:organization:404" .submitted)
  if !found.isEmpty then throw ("expected empty listing, got " ++ toString found.length)

def lookupMatchesStatus : Check Unit := do
  seed
  let found ← expect "lookup" (World.proposalForRepository 7 .submitted "N:proposal:1b")
  if found.userId != 1 then throw ("wrong record returned: " ++ found.describe)
  let draft ← attempt (World.proposalForRepository 7 .submitted "N:proposal:1a")
  if !isNotFound draft then
    throw ("draft matched a submitted lookup: " ++ describeOutcome Proposal.describe draft)
  let other ← attempt (World.proposalForRepository 8 .submitted "N:proposal:1b")
  if !isNotFound other then
    throw ("wrong repository matched: " ++ describeOutcome Proposal.describe other)

def lookupAmbiguous : Check Unit := do
  expect "create 1" (World.create (sample 1 "N:proposal:dup" 7 .submitted))
  expect "create 2" (World.create (sample 2 "N:proposal:dup" 7 .submitted))
  match ← attempt (World.proposalForRepository 7 .submitted "N:proposal:dup") with
  | .error (.ambiguous _ _ 2) => return ()
  | other => throw ("expected Ambiguous with count 2, got " ++ describeOutcome Proposal.describe other)

/-! Conditional writes. -/

def isConflict : Except StorageError α → Bool
  | .error (.conflict ..) => true
  | _ => false

def matchingStatusWrites : Check Unit := do
  let record := sample 42 "N:proposal:a" 7 .draft
  expect "create" (World.create record)
  let submitted := { record with status := .submitted, submittedAt := 1700000100 }
  expect "conditional update" (World.updateIf submitted .draft)
  let stored ← expect "get" (World.proposal 42 "N:proposal:a")
  if !(stored == submitted) then throw ("write not applied: " ++ stored.describe)

def staleStatusConflicts : Check Unit := do
  let record := sample 42 "N:proposal:a" 7 .withdrawn
  expect "create" (World.create record)
  let r ← attempt (World.updateIf { record with status := .accepted } .submitted)
  if !isConflict r then throw ("expected Conflict, got " ++ describeOutcome describeUnit r)
  let stored ← expect "get" (World.proposal 42 "N:proposal:a")
  if stored.status != .withdrawn then
    throw ("rejected write changed status to " ++ stored.status.name)

def conflictNamesExpected : Check Unit := do
  let record := sample 42 "N:proposal:a" 7 .rejected
  expect "create" (World.create record)
  match ← attempt (World.updateIf record .submitted) with
  | .error (.conflict u n e) =>
    if u != 42 || n != "N:proposal:a" then
      throw ("conflict names wrong key: " ++ toString u ++ "/" ++ n)
    if e != .submitted then throw ("expected status SUBMITTED, got " ++ e.name)
  | other => throw ("expected Conflict, got " ++ describeOutcome describeUnit other)

def conditionalMissing : Check Unit := do
  let r ← attempt (World.updateIf (sample 42 "N:proposal:gone" 7 .submitted) .draft)
  if !isNotFound r then throw ("expected NotFound, got " ++ describeOutcome describeUnit r)

def secondTransitionConflicts : Check Unit := do
  let record := sample 42 "N:proposal:a" 7 .submitted
  expect "create" (World.create record)
  let withdrawn := { record with status := .withdrawn, withdrawnAt := 100 }
  expect "first withdraw" (World.updateIf withdrawn .submitted)
  let r ← attempt (World.updateIf { withdrawn with withdrawnAt := 200 } .submitted)
  if !isConflict r then throw ("expected Conflict, got " ++ describeOutcome describeUnit r)
  let stored ← expect "get" (World.proposal 42 "N:proposal:a")
  if stored.withdrawnAt != 100 then throw ("timestamp rewritten to " ++ toString stored.withdrawnAt)

/-! Racing writers. -/

def racers : Nat := 10

def racingTransitions : Check Unit := do
  let record := sample 42 "N:proposal:race" 7 .submitted
  expect "create" (World.create record)
  let attempts := (List.range racers).map fun i =>
    if i % 2 == 0 then { record with status := .accepted, acceptedAt := 1700000000 + i }
    else { record with status := .rejected, rejectedAt := 1700000000 + i }
  let outcomes ← attempts.mapM fun next => do
    return (next, ← attempt (World.updateIf next .submitted))
  let mut winners : List Proposal := []
  let mut conflicts := 0
  for (next, r) in outcomes do
    match r with
    | .ok () => winners := winners ++ [next]
    | .error (.conflict ..) => conflicts := conflicts + 1
    | .error e => throw ("unexpected error: " ++ e.message)
  if winners.length != 1 || conflicts != racers - 1 then
    throw ("expected 1 winner and " ++ toString (racers - 1) ++ " conflicts, got " ++
      toString winners.length ++ " winners and " ++ toString conflicts ++ " conflicts")
  let stored ← expect "get" (World.proposal 42 "N:proposal:race")
  if !(some stored == winners.head?) then throw "stored record is not the winning write"

def racingCreates : Check Unit := do
  let attempts := (List.range racers).map fun i =>
    { sample 42 "N:proposal:same" 7 .draft with name := "attempt " ++ toString i }
  let outcomes ← attempts.mapM fun r => attempt (World.create r)
  let mut created := 0
  let mut duplicates := 0
  for r in outcomes do
    match r with
    | .ok () => created := created + 1
    | .error (.alreadyExists ..) => duplicates := duplicates + 1
    | .error e => throw ("unexpected error: " ++ e.message)
  if created != 1 || duplicates != racers - 1 then
    throw ("expected 1 create and " ++ toString (racers - 1) ++ " duplicates, got " ++
      toString created ++ " and " ++ toString duplicates)

def separateTransitions : Check Unit := do
  for i in List.range racers do
    expect ("create " ++ toString i) (World.create (sample 42 ("N:proposal:" ++ toString i) 7 .draft))
  let outcomes ← (List.range racers).mapM fun i =>
    attempt (World.updateIf
      { sample 42 ("N:proposal:" ++ toString i) 7 .submitted with submittedAt := 1700000500 } .draft)
  for (i, r) in (List.range racers).zip outcomes do
    match r with
    | .ok () => pure ()
    | .error e => throw ("submit " ++ toString i ++ ": " ++ e.message)
  let listed ← expect "list" (World.proposalsForWorkspace "N:organization:7" .submitted)
  if listed.length != racers then
    throw ("expected " ++ toString racers ++ " submitted, got " ++ toString listed.length)

def checks : List (String × String × Check Unit) :=
  [("crud", "create_then_get_returns_same_record", createThenGet),
   ("crud", "create_duplicate_key_is_already_exists", duplicateCreate),
   ("crud", "same_node_id_different_user_is_distinct", sameNodeOtherUser),
   ("crud", "update_replaces_all_fields", updateReplaces),
   ("crud", "delete_removes_record", deleteRemoves),
   ("crud", "delete_missing_is_ok", deleteMissing),
   ("error", "get_missing_proposal_not_found", getMissing),
   ("error", "not_found_names_the_key", notFoundNamesKey),
   ("error", "update_missing_proposal_not_found", updateMissing),
   ("error", "repository_lookup_missing_not_found", repositoryLookupMissing),
   ("queries", "user_listing_returns_only_that_user", userListing),
   ("queries", "workspace_listing_filters_by_status", workspaceListing),
   ("queries", "workspace_listing_empty_for_unknown_workspace", unknownWorkspace),
   ("queries", "repository_lookup_requires_matching_status", lookupMatchesStatus),
   ("queries", "repository_lookup_ambiguous_across_users", lookupAmbiguous),
   ("conditional", "matching_status_writes", matchingStatusWrites),
   ("conditional", "stale_status_conflicts_and_keeps_record", staleStatusConflicts),
   ("conditional", "conflict_carries_expected_status", conflictNamesExpected),
   ("conditional", "missing_record_not_found", conditionalMissing),
   ("conditional", "second_identical_transition_conflicts", secondTransitionConflicts),
   ("concurrent", "racing_transitions_exactly_one_wins", racingTransitions),
   ("concurrent", "racing_creates_exactly_one_wins", racingCreates),
   ("concurrent", "transitions_on_different_proposals_all_succeed", separateTransitions)]

/-- The verdict of one check. -/
structure Verdict where
  group : String
  name : String
  failure : Option String
  deriving Repr, Inhabited

def Verdict.passed (v : Verdict) : Bool := v.failure.isNone

def run (fresh : World) : List Verdict :=
  checks.map fun (group, name, check) =>
    match (check.run.run fresh).1 with
    | .ok () => ⟨group, name, none⟩
    | .error m => ⟨group, name, some m⟩

def display (vs : List Verdict) : String :=
  let passed := (vs.filter Verdict.passed).length
  "Conformance: " ++ toString passed ++ "/" ++ toString vs.length ++ " passed (" ++
    toString (vs.length - passed) ++ " failed)\n" ++
    String.join (vs.filterMap fun v => v.failure.map fun m =>
      "  FAIL [" ++ v.group ++ "/" ++ v.name ++ "]: " ++ m ++ "\n")

end Contract
end DatasetProposals
