import DatasetProposals.Store.Memory
import DatasetProposals.Store.Documents
import DatasetProposals.Store.DocumentServer
import DatasetProposals.Directory.Memory
import DatasetProposals.Directory.Relational
import DatasetProposals.Fault.Plan
import DatasetProposals.Notify.Notifier
import DatasetProposals.Signing.Url
import DatasetProposals.Service.Error
/-! Everything a service call can observe or change: the store, the directory, the fault plans
around them, the clock, the mail transport and the settings. -/
namespace DatasetProposals

/-- How sent mail is delivered. -/
inductive Transport where
  | memory
  | log
  | relay (token : Option String) (reachable : Bool)
  deriving Repr, DecidableEq, Inhabited

/-- The mail transport and what it recorded. -/
structure Mailer where
  transport : Transport
  failing : Bool
  sendDelayMs : Nat
  sent : List Email
  deriving Repr, Inhabited

/-- The service's settings. -/
structure Settings where
  appUrl : String
  overviewExpiry : Nat
  logoExpiry : Nat
  notificationTimeoutMs : Nat
  sender : String
  templates : TemplateSource
  signer : UrlSigner
  deriving Repr, Inhabited

/-- The state a service call runs against. -/
structure World where
  settings : Settings
  store : MemoryStore
  documents : Option DocumentServer
  directory : MemoryDirectory
  relational : Option RelationalDirectory
  storeFaults : StoreFaults
  directoryFaults : DirectoryFaults
  clock : Int
  mailer : Mailer
  issued : Nat
  reserved : List String
  deriving Repr, Inhabited

abbrev Act := StateM World

namespace World

def hex12 (n : Nat) : String :=
  let digits := (Nat.toDigits 16 n)
  String.ofList (List.replicate (12 - digits.length) '0' ++ digits)

def candidateUuid (n : Nat) : String := "a0000000-0000-4000-8000-" ++ hex12 n

def firstUnreserved (reserved : List String) (n : Nat) : Nat → Nat
  | 0 => n
  | fuel + 1 =>
    if reserved.any (Text.mentions · (candidateUuid n)) then firstUnreserved reserved (n + 1) fuel
    else n

def freshNodeId (pre : String) : Act String :=
  modifyGet fun w =>
    let n := firstUnreserved w.reserved (w.issued + 1) ((w.reserved.map String.length).foldr (· + ·) 0 + 1)
    (pre ++ candidateUuid n, { w with issued := n })

def now : Act Int := do return (← get).clock


def storeHit (m : StoreMethod) : Act (Option (FaultRule StoreMethod StoreEffect)) :=
  modifyGet fun w =>
    let (r, p) := w.storeFaults.hit m
    (r, { w with storeFaults := p })

def directoryHit (m : DirectoryMethod) : Act (Option (FaultRule DirectoryMethod DirectoryEffect)) :=
  modifyGet fun w =>
    let (r, p) := w.directoryFaults.hit m
    (r, { w with directoryFaults := p })

/-! Backend calls, without faults. -/

def storeCall (onServer : DocumentCall DocumentServer (Except StorageError α))
    (inMemory : MemoryStore → Except StorageError (α × MemoryStore)) : Act (Except StorageError α) := do
  let w ← get
  match w.documents with
  | some server =>
    let (r, server') := onServer.run server
    set { w with documents := some server' }
    return r
  | none =>
    match inMemory w.store with
    | .ok (a, s) => set { w with store := s }; return .ok a
    | .error e => return .error e

def reading (f : MemoryStore → Except StorageError α) (s : MemoryStore) :
    Except StorageError (α × MemoryStore) :=
  (f s).map (·, s)

def rawPublishingInfo : Act (Except StorageError (List InfoRecord)) :=
  storeCall (Documents.publishingInfo DocumentServer.commands) (reading fun s => .ok s.info)

def rawRepositories : Act (Except StorageError (List RepositoryRecord)) :=
  storeCall (Documents.repositories DocumentServer.commands) (reading fun s => .ok s.repositories)

def rawRepository (org : String) : Act (Except StorageError RepositoryRecord) :=
  storeCall (Documents.repository DocumentServer.commands org) (reading (·.repository org))

def rawQuestions : Act (Except StorageError (List QuestionRecord)) :=
  storeCall (Documents.questions DocumentServer.commands) (reading fun s => .ok s.questions)

def rawProposal (u : Int) (n : String) : Act (Except StorageError Proposal) :=
  storeCall (Documents.proposal DocumentServer.commands u n) (reading (·.proposal u n))

def rawProposalsForUser (u : Int) : Act (Except StorageError (List Proposal)) :=
  storeCall (Documents.proposalsForUser DocumentServer.commands u) (reading fun s => .ok (s.proposalsForUser u))

def rawProposalsForWorkspace (org : String) (st : Status) : Act (Except StorageError (List Proposal)) :=
  storeCall (Documents.proposalsForWorkspace DocumentServer.commands org st)
    (reading fun s => .ok (s.proposalsForWorkspace org st))

def rawProposalForRepository (r : Int) (st : Status) (n : String) : Act (Except StorageError Proposal) :=
  storeCall (Documents.proposalForRepository DocumentServer.commands r st n) (reading (·.proposalForRepository r st n))

def writing (f : MemoryStore → Except StorageError MemoryStore) (s : MemoryStore) :
    Except StorageError (Unit × MemoryStore) :=
  (f s).map ((), ·)

def rawCreate (p : Proposal) : Act (Except StorageError Unit) :=
  storeCall (Documents.create DocumentServer.commands p) (writing (·.create p))
def rawUpdate (p : Proposal) : Act (Except StorageError Unit) :=
  storeCall (Documents.update DocumentServer.commands p) (writing (·.update p))
def rawUpdateIf (p : Proposal) (e : Status) : Act (Except StorageError Unit) :=
  storeCall (Documents.updateIf DocumentServer.commands p e) (writing (·.updateIf p e))
def rawDelete (k : ProposalKey) : Act (Except StorageError Unit) :=
  storeCall (Documents.delete DocumentServer.commands k) (writing fun s => .ok (s.delete k))

def rawReplace (p : Proposal) : Act (Except StorageError Unit) := do
  let _ ← rawDelete p.key
  rawCreate p

/-! Injected misbehaviour. -/

def phantom : Proposal := { Proposal.empty with nodeId := "injected", name := "phantom" }

def mangled (p : Proposal) : Proposal := { p with userId := p.userId + 1000, name := "mangled" }

def injectedStorageError (r : FaultRule StoreMethod StoreEffect) (defaults : Int × String × Status) :
    Option StorageError :=
  match r.effect with
  | .backend => some (.backend "injected fault")
  | .notFound => some (.notFound "dataset proposal" "injected")
  | .conflict => some (.conflict (r.userId.getD defaults.1) (r.nodeId.getD defaults.2.1)
      (r.expected.getD defaults.2.2))
  | .alreadyExists => some (.alreadyExists (r.userId.getD 0) (r.nodeId.getD "injected"))
  | .ambiguous => some (.ambiguous "dataset proposal" "injected" 3)
  | _ => none

def plainDefaults : Int × String × Status := (0, "injected", .draft)

def faultyListRead (m : StoreMethod) (real : Act (Except StorageError (List α)))
    (mangle : α → α) (extra : List α) : Act (Except StorageError (List α)) := do
  let rule ← storeHit m
  let answer ← real
  match rule with
  | none => return answer
  | some r =>
    match injectedStorageError r plainDefaults with
    | some e => return .error e
    | none =>
      match r.effect with
      | .skip => return .ok []
      | .mangle => return answer.map (·.map mangle)
      | .phantom => return answer.map (· ++ extra)
      | _ => return answer

def faultyRecordRead (m : StoreMethod) (real : Act (Except StorageError α)) (mangle : α → α)
    (phantomAnswer : Option α) : Act (Except StorageError α) := do
  let rule ← storeHit m
  let answer ← real
  match rule with
  | none => return answer
  | some r =>
    match injectedStorageError r plainDefaults with
    | some e => return .error e
    | none =>
      match r.effect with
      | .skip => return .error (.notFound "dataset proposal" "injected")
      | .mangle => return answer.map mangle
      | .phantom =>
        match phantomAnswer with
        | some p => return .ok p
        | none => return answer
      | _ => return answer

def faultyWrite (m : StoreMethod) (defaults : Int × String × Status)
    (real unconditional mangle applied : Act (Except StorageError Unit)) :
    Act (Except StorageError Unit) := do
  match ← storeHit m with
  | none => real
  | some r =>
    match injectedStorageError r defaults with
    | some e =>
      if r.apply then
        let _ ← applied
      return .error e
    | none =>
      match r.effect with
      | .skip => return .ok ()
      | .unconditional => unconditional
      | .mangle => mangle
      | _ => real

/-! The store as the service sees it. -/

def publishingInfo : Act (Except StorageError (List InfoRecord)) :=
  faultyListRead .publishingInfo rawPublishingInfo (fun i => { i with tag := "mangled" }) []

def repositories : Act (Except StorageError (List RepositoryRecord)) :=
  faultyListRead .repositories rawRepositories (fun r => { r with displayName := "mangled" }) []

def questions : Act (Except StorageError (List QuestionRecord)) :=
  faultyListRead .questions rawQuestions (fun q => { q with question := "mangled" }) []

def repository (org : String) : Act (Except StorageError RepositoryRecord) := do
  match ← storeHit .repository with
  | none => rawRepository org
  | some r =>
    match injectedStorageError r plainDefaults with
    | some e => return .error e
    | none =>
      match r.effect with
      | .skip => return .error (.notFound "dataset proposal" "injected")
      | .mangle =>
        return (← rawRepository org).map fun x => { x with organizationNodeId := "N:organization:mangled" }
      | _ => rawRepository org

def proposal (u : Int) (n : String) : Act (Except StorageError Proposal) :=
  faultyRecordRead .proposal (rawProposal u n) mangled (some phantom)

def proposalsForUser (u : Int) : Act (Except StorageError (List Proposal)) :=
  faultyListRead .proposalsForUser (rawProposalsForUser u) mangled [phantom]

def proposalsForWorkspace (org : String) (s : Status) : Act (Except StorageError (List Proposal)) :=
  faultyListRead .proposalsForWorkspace (rawProposalsForWorkspace org s) mangled [phantom]

def proposalForRepository (r : Int) (s : Status) (n : String) : Act (Except StorageError Proposal) :=
  faultyRecordRead .proposalForRepository (rawProposalForRepository r s n) mangled (some phantom)

def create (p : Proposal) : Act (Except StorageError Unit) :=
  faultyWrite .create plainDefaults (rawCreate p) (rawReplace p) (rawCreate (mangled p)) (rawReplace p)

def update (p : Proposal) : Act (Except StorageError Unit) :=
  faultyWrite .update plainDefaults (rawUpdate p) (rawReplace p) (rawUpdate (mangled p)) (rawReplace p)

def updateIf (p : Proposal) (e : Status) : Act (Except StorageError Unit) :=
  faultyWrite .updateIf (p.userId, p.nodeId, e) (rawUpdateIf p e) (rawUpdate p)
    (rawUpdateIf (mangled p) e) (rawUpdate p)

def delete (k : ProposalKey) : Act (Except StorageError Unit) :=
  faultyWrite .delete plainDefaults (rawDelete k) (pure (.ok ())) (pure (.ok ())) (rawDelete k)

/-! The directory as the service sees it. -/

def injectedDirectoryError (r : FaultRule DirectoryMethod DirectoryEffect) : DirectoryError :=
  match r.effect with
  | .backend | .skip => .backend "injected fault"
  | .userNotFound => .userNotFound 0
  | .organizationNotFound => .organizationNotFound "injected"
  | .stepFailed => .stepFailed (r.step.getD .createDataset) "injected fault"

def relationally (d : RelationalDirectory) (s : Session α) : Act (Except DirectoryError α) := do
  let (r, d') := d.run s
  modify fun w => { w with relational := some d' }
  return r

def rawProposalUser (u : Int) : Act (Except DirectoryError User) := do
  let w ← get
  match w.relational with
  | some d => relationally d (RelationalDirectory.proposalUser u)
  | none => return w.directory.proposalUser u

def rawRepositoryWorkspace (org : String) : Act (Except DirectoryError Organization) := do
  let w ← get
  match w.relational with
  | some d => relationally d (RelationalDirectory.repositoryWorkspace org)
  | none => return w.directory.repositoryWorkspace org

def rawPublishingTeam (org : String) : Act (Except DirectoryError (List Publisher)) := do
  let w ← get
  match w.relational with
  | some d => relationally d (RelationalDirectory.publishingTeam org)
  | none => return .ok (w.directory.publishingTeam org)

def rawWelcomeWorkspace : Act (Except DirectoryError Organization) := do
  let w ← get
  match w.relational with
  | some d => relationally d (RelationalDirectory.welcomeWorkspace d.welcomeSlug)
  | none => return w.directory.welcomeWorkspace

def rawProvision (p : Proposal) : Act (Except DirectoryError CreatedDataset) := do
  let nodeId ← freshNodeId "N:dataset:"
  let w ← get
  match w.relational with
  | some d => relationally d (RelationalDirectory.provision d.organizationId p nodeId)
  | none =>
    match w.directory.provision p nodeId with
    | .ok (created, d) =>
      modify fun w => { w with directory := d }
      return .ok created
    | .error e => return .error e

def faultyDirectory (m : DirectoryMethod) (real : Act (Except DirectoryError α))
    (skipped : Option α) : Act (Except DirectoryError α) := do
  match ← directoryHit m with
  | none => real
  | some r =>
    match r.effect, skipped with
    | .skip, some a => return .ok a
    | _, _ => return .error (injectedDirectoryError r)

def proposalUser (u : Int) : Act (Except DirectoryError User) :=
  faultyDirectory .proposalUser (rawProposalUser u) none

def repositoryWorkspace (org : String) : Act (Except DirectoryError Organization) :=
  faultyDirectory .repositoryWorkspace (rawRepositoryWorkspace org) none

def publishingTeam (org : String) : Act (Except DirectoryError (List Publisher)) :=
  faultyDirectory .publishingTeam (rawPublishingTeam org) (some [])

def welcomeWorkspace : Act (Except DirectoryError Organization) :=
  faultyDirectory .welcomeWorkspace rawWelcomeWorkspace none

def provision (p : Proposal) : Act (Except DirectoryError CreatedDataset) :=
  faultyDirectory .provision (rawProvision p) none

/-! Mail. -/

def send (m : Email) : Act (Except NotifyError Unit) := do
  let w ← get
  match w.mailer.transport with
  | .log => return .ok ()
  | .relay _ reachable =>
    if !reachable then return .error (.send "relay" "connection refused")
    set { w with mailer := { w.mailer with sent := w.mailer.sent ++ [m] } }
    return .ok ()
  | .memory =>
    if w.mailer.failing then return .error (.send "memory" "configured to fail")
    set { w with mailer := { w.mailer with sent := w.mailer.sent ++ [m] } }
    return .ok ()

def finishesInTime (w : World) : Bool :=
  match w.mailer.transport with
  | .memory => w.mailer.sendDelayMs == 0 || w.mailer.sendDelayMs ≤ w.settings.notificationTimeoutMs
  | .log | .relay _ _ => true

end World

end DatasetProposals
