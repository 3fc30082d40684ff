import DatasetProposals.Cli.Config
import DatasetProposals.Cli.Seed
import DatasetProposals.Service.World
import DatasetProposals.Store.Documents
/-! Starting the server: loading the seed, opening the store and the directory, choosing templates
and the mail transport, in that order, each step logged. -/
namespace DatasetProposals
namespace Cli

/-- A line written to standard error: plain text, a log event written as text (shown here
without the time that starts it), or a log event written as JSON. -/
inductive ErrLine where
  | text (s : String)
  | event (s : String)
  | json (j : Json)
  deriving Repr, Inhabited

/-- How a run of the program ended: its status and what it wrote. -/
structure Exit where
  status : Nat
  stdout : String
  stderr : List ErrLine
  deriving Repr, Inhabited

/-- Where log events go and in which format. -/
structure Logger where
  filter : Log.Filter
  format : Log.Format
  deriving Inhabited

def Logger.lines (l : Logger) (e : Log.Event) : List ErrLine :=
  if l.filter.allows e then
    [match l.format with
     | .text => .event e.textLine
     | .json => .json e.jsonObject]
  else []

/-- What answers at the addresses the server connects to: a document database, a relational
database and whether the mail relay accepts connections. `none` means nothing answers. -/
structure Reachable where
  documents : Option DocumentServer
  relational : Option Sql.Server
  relay : Bool
  deriving Inhabited

/-- A started server: the world its requests run against, and the API key they need. -/
structure Server where
  world : World
  apiKey : Option String
  config : ServeConfig
  deriving Inhabited

/-- An error that ends the program: its message and the messages of its causes. -/
structure Abort where
  message : String
  causes : List String
  deriving Repr, Inhabited

def Abort.lines (f : Abort) : List ErrLine :=
  let causes := match f.causes with
    | [] => []
    | [c] => ["", "Caused by:", "    " ++ c]
    | cs => ["", "Caused by:"] ++ (cs.zipIdx.map (fun (c, i) => "    " ++ toString i ++ ": " ++ c))
  (("Error: " ++ f.message) :: causes).map ErrLine.text

abbrev Starting := StateT (List ErrLine) (Except (List ErrLine × Abort))

def Starting.log (l : Logger) (level : Log.Level) (target message : String)
    (fields : List (String × Log.FieldValue)) : Starting Unit :=
  modify (· ++ l.lines ⟨level, target, message, fields⟩)

def Starting.fail {α : Type} (message : String) (causes : List String) : Starting α := do
  let lines ← get
  throw (lines, ⟨message, causes⟩)

def wiringTarget : String := "publishing::wiring"

def directorySeed (c : ServeConfig) (seed : DirectorySeed) : DirectorySeed :=
  let seed := match c.publishingOrganizationId with
    | some id => { seed with publishingOrganizationId := id }
    | none => seed
  if seed.welcomeWorkspaceSlug.isEmpty then { seed with welcomeWorkspaceSlug := c.welcomeWorkspaceSlug }
  else seed

def ServeConfig.templateKeys (c : ServeConfig) : TemplateKeys :=
  ⟨c.templateBucket, c.templateSubmitted, c.templateWithdrawn, c.templateAccepted, c.templateRejected⟩

def startServer (l : Logger) (files : FileTree) (cwd : List String) (reach : Reachable)
    (clock : Int) (c : ServeConfig) : Starting Server := do
  let seed ← match c.seed with
    | none => pure Seed.empty
    | some path =>
      Starting.log l .info wiringTarget "loading seed" [("path", .text path)]
      match Seed.load files cwd path with
      | .ok s => pure s
      | .error e => Starting.fail e.message [e.cause]
  let documents ← match c.documentStore with
    | .memory =>
      Starting.log l .info wiringTarget "using in-memory document store"
        [("repositories", .number seed.documents.repositories.length),
         ("questions", .number seed.documents.questions.length)]
      pure none
    | .mongo =>
      Starting.log l .info "publishing_storage::mongo" "connecting to document store"
        [("database", .text c.mongodbDb)]
      match reach.documents with
      | none => Starting.fail "failed to connect to MongoDB" ["connect: server selection timeout"]
      | some server =>
        match (Documents.connect DocumentServer.commands).run server with
        | (.ok (), s) => pure (some { s with log := [] })
        | (.error e, _) => Starting.fail "failed to connect to MongoDB" [e.message]
  let (directory, relational) ← match c.relationalStore with
    | .memory =>
      let dir := directorySeed c seed.directory
      Starting.log l .info wiringTarget "using in-memory relational store"
        [("users", .number dir.users.length), ("organizations", .number dir.organizations.length)]
      pure (MemoryDirectory.ofSeed dir, none)
    | .postgres =>
      let orgId := c.publishingOrganizationId.getD 0
      Starting.log l .info "publishing_relational::postgres" "connecting to relational store"
        [("organization_id", .number orgId)]
      match reach.relational with
      | none => Starting.fail "failed to connect to PostgreSQL" ["connect: connection refused"]
      | some server =>
        pure (MemoryDirectory.empty, some (RelationalDirectory.mk server orgId c.welcomeWorkspaceSlug))
  let templates ← match c.templateDir with
    | some root =>
      Starting.log l .info wiringTarget "loading email templates from directory"
        [("root", .text root), ("bucket", .text c.templateBucket)]
      pure (TemplateSource.files files ("/" ++ "/".intercalate (FileTree.resolve cwd root)) c.templateKeys)
    | none => pure TemplateSource.builtin
  let transport ← match c.emailTransport with
    | .relay => pure (Transport.relay c.emailRelayToken reach.relay)
    | .log =>
      Starting.log l .warn wiringTarget "email transport is log-only; notifications will not be delivered" []
      pure Transport.log
  if c.requiredKey?.isSome then
    Starting.log l .info "publishing::serve" "API key authentication enabled" []
  let settings : Settings := ⟨c.appUrl, c.overviewUrlExpirySecs, c.logoUrlExpirySecs,
    c.notificationTimeoutSecs * 1000, c.emailFrom, templates,
    UrlSigner.make c.fileBaseUrl (c.urlSigningSecret.getD "")⟩
  let mailer : Mailer := ⟨transport, false, 0, []⟩
  let world : World := ⟨settings, MemoryStore.ofSeed seed.documents, documents, directory, relational,
    FaultPlan.ofRules [], FaultPlan.ofRules [], clock, mailer, 0, []⟩
  return ⟨world, c.requiredKey?, c⟩

end Cli
end DatasetProposals
