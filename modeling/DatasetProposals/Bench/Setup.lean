import DatasetProposals.Bench.Answer
import DatasetProposals.Service.World
import DatasetProposals.Store.Documents
/-! The world a scenario starts from, read off the request, every member with its default, the
fault plans checked rule by rule. -/
namespace DatasetProposals
namespace Bench
open Json

def blobTree : FileTree :=
  let base := ["opt", "oracle_build", "blob", "templates"]
  ⟨(Event.all.map fun e => (base ++ [e.templateFile], e.builtinTemplate)) ++
    [(base ++ ["custom.txt"], "Custom $\x7bProposalTitle\x7d for $\x7bWorkspaceName\x7d $\x7bMissing\x7d")],
   [base ++ ["a_directory.html"]]⟩

def blobRoot : String := "/opt/oracle_build/blob"

def reading (message : String) (d : Decoder α) (j : Json) : Except Failure α :=
  match d (Doc.ofJson j) with
  | .ok a => .ok a
  | .error _ => .error (.badInput message)

def givenTemplateTexts (j : Json) : Except Failure (Option (List (String × String))) :=
  match j.get "templates" with
  | .null => .ok none
  | .obj fields =>
    some <$> fields.mapM fun (k, v) => (reading "field templates" Decoder.string v).map (k, ·)
  | _ => .error (.badInput "field templates")

def eventTemplates (pairs : List (String × String)) : Except Failure (List (Event × String)) :=
  pairs.mapM fun (k, text) =>
    match Event.ofName? k with
    | some e => pure (e, text)
    | none => throw (Failure.badInput "event")

def templateKeys (j : Json) : Except Failure TemplateKeys := do
  let bad : Failure := .badInput "field blob_templates"
  match j with
  | .obj _ =>
    let key (name : String) : Except Failure String :=
      match j.field? name with
      | none => .ok ""
      | some (.str text) => .ok text
      | some _ => .error bad
    return ⟨← key "bucket", ← key "submitted", ← key "withdrawn", ← key "accepted", ← key "rejected"⟩
  | _ => throw bad

def templateSource (j : Json) : Except Failure TemplateSource := do
  let given ← givenTemplateTexts j
  let keys ← match j.get "blob_templates" with
    | .null => pure none
    | b => some <$> templateKeys b
  match keys, given with
  | some k, _ => return .files blobTree blobRoot k
  | none, some pairs => return .given (← eventTemplates pairs)
  | none, none => return .builtin

/-- The shape of a fault rule, before its names are looked up. -/
structure RuleShape where
  method : String
  effect : String
  skip : Nat
  times : Option Nat
  step : Option String
  userId : Option Int
  nodeId : Option String
  expected : Option String
  apply : Bool

def optionalMember (message : String) (j : Json) (name : String) (d : Decoder α) :
    Except Failure (Option α) :=
  match j.get name with
  | .null => .ok none
  | v => (reading message d v).map some

def defaultedMember (message : String) (j : Json) (name : String) (d : Decoder α) (default : α) :
    Except Failure α :=
  match j.field? name with
  | none => .ok default
  | some v => reading message d v

def ruleShape (message : String) (j : Json) : Except Failure RuleShape := do
  match j with
  | .obj _ =>
    let method ← reading message Decoder.string (j.get "method")
    let effect ← reading message Decoder.string (j.get "effect")
    return ⟨method, effect, ← defaultedMember message j "skip" Decoder.uint64 0,
      ← optionalMember message j "times" Decoder.uint64, ← optionalMember message j "step" Decoder.string,
      ← optionalMember message j "user_id" Decoder.int64, ← optionalMember message j "node_id" Decoder.string,
      ← optionalMember message j "expected" Decoder.string,
      ← defaultedMember message j "apply" Decoder.bool false⟩
  | _ => throw (.badInput message)

def ruleOfShape (message : String) (methodOf : String → Option M) (effectOf : String → Option E)
    (s : RuleShape) : Except Failure (FaultRule M E) := do
  let some method := methodOf s.method | throw (.badInput message)
  let some effect := effectOf s.effect | throw (.badInput message)
  let step ← match s.step with
    | none => pure none
    | some n => match ProvisionStep.ofName? n with
      | some st => pure (some st)
      | none => throw (.badInput "provision step")
  let expected ← match s.expected with
    | none => pure none
    | some n => match Status.parse? n with
      | some st => pure (some st)
      | none => throw (.unknownStatus n)
  return ⟨method, effect, s.skip, s.times, s.userId, s.nodeId, expected, step, s.apply⟩

def faultRules (j : Json) (name : String) (methodOf : String → Option M)
    (effectOf : String → Option E) : Except Failure (List (FaultRule M E)) := do
  match j.get name with
  | .null => return []
  | .arr items =>
    let shapes ← items.mapM (ruleShape ("field " ++ name))
    shapes.mapM (ruleOfShape name methodOf effectOf)
  | _ => throw (.badInput ("field " ++ name))

/-- A relational directory as a request describes it: the server's rules, an error that
refuses every connection, and the directory's two settings. -/
structure RelationalSpec where
  rules : List Sql.Rule
  startupError : Option (String × String)
  organizationId : Int
  welcomeSlug : String
  deriving Inhabited

def sqlFailure (message : String) (j : Json) : Except Failure (String × String) := do
  match j with
  | .obj _ =>
    return (← reading message Decoder.string (j.get "code"), ← reading message Decoder.string (j.get "message"))
  | _ => throw (.badInput message)

def sqlRuleShape (j : Json) : Except Failure (Sql.Rule × List String) := do
  let bad : Failure := .badInput "field rules"
  match j with
  | .obj _ =>
    let pattern ← reading "field rules" Decoder.string (j.get "match")
    let params ← match j.get "params" with
      | .null => pure none
      | .arr xs => pure (some xs)
      | _ => throw bad
    let columns ← match j.get "columns" with
      | .null => pure none
      | .arr cs => some <$> cs.mapM fun c => match c with
        | .arr [.str n, .str t] => pure (n, t)
        | _ => throw bad
      | _ => throw bad
    let rows ← match j.get "rows" with
      | .null => pure []
      | .arr rs => rs.mapM fun r => match r with
        | .arr cells => pure cells
        | _ => throw bad
      | _ => throw bad
    let failure ← match j.get "error" with
      | .null => pure none
      | e => some <$> sqlFailure "field rules" e
    match j.get "tag" with
    | .null | .str _ => pure ()
    | _ => throw bad
    let typed ← (columns.getD []).mapM fun (n, t) => match Sql.ColumnType.ofName? t with
      | some ty => pure (n, ty)
      | none => pure (n, Sql.ColumnType.text)
    return (⟨pattern, params, columns.map fun _ => typed, rows, failure⟩,
      (columns.getD []).map (·.2))
  | _ => throw bad

def retriedStartupCodes : List String := ["53300", "57P03"]

def relationalServer (j : Json) :
    Except Failure (List Sql.Rule × Option (String × String)) := do
  let shapes ← match j.get "rules" with
    | .null => pure []
    | .arr rs => rs.mapM sqlRuleShape
    | _ => throw (.badInput "field rules")
  if shapes.any (fun (_, types) => types.any fun t => (Sql.ColumnType.ofName? t).isNone) then
    throw (.badInput "postgres")
  let startupError ← match j.get "startup_error" with
    | .null => pure none
    | e => some <$> sqlFailure "field startup_error" e
  if startupError.any (fun (code, _) => retriedStartupCodes.contains code) then
    throw (.badInput "postgres")
  return (shapes.map (·.1), startupError)

def relationalSpec (j : Json) : Except Failure RelationalSpec := do
  let (rules, startupError) ← relationalServer j
  let _ ← orDefault j "max_connections" Decoder.uint32 1
  let organizationId ← orDefault j "organization_id" Decoder.int64 1
  let welcomeSlug ← orDefault j "welcome_slug" Decoder.string "welcome"
  return ⟨rules, startupError, organizationId, welcomeSlug⟩

def serverRelationalSpec (j : Json) : Except Failure RelationalSpec := do
  let (rules, startupError) ← relationalServer j
  let organizationId ← orDefault j "organization_id" Decoder.int64 1
  return ⟨rules, startupError, organizationId, "welcome"⟩

/-- A document database as a request describes it: its faults, documents to append after the
seed, and the database name. -/
structure DocumentSpec where
  faults : List ServerFault
  collections : List (String × List (List (String × Json)))
  database : String
  deriving Inhabited

mutual
def asStoredNumbers : Json → Json
  | .int n => if n > 9223372036854775807 then .float (Numeral.ofNat n.toNat) else .int n
  | .arr xs => .arr (asStoredItems xs)
  | .obj fs => .obj (asStoredFields fs)
  | j => j

def asStoredItems : List Json → List Json
  | [] => []
  | x :: xs => asStoredNumbers x :: asStoredItems xs

def asStoredFields : List (String × Json) → List (String × Json)
  | [] => []
  | (k, v) :: fs => (k, asStoredNumbers v) :: asStoredFields fs
end

def codeAndMessage (j : Json) : Except Failure (Int × String) := do
  let bad : Failure := .badInput "field faults"
  match j with
  | .obj _ =>
    let code ← match j.get "code" with
      | .int c => if -2147483648 ≤ c && c ≤ 2147483647 then pure c else throw bad
      | _ => throw bad
    let message ← match j.get "message" with
      | .str m => pure m
      | _ => throw bad
    return (code, message)
  | _ => throw bad

def serverFault (j : Json) : Except Failure ServerFault := do
  let bad : Failure := .badInput "field faults"
  match j with
  | .obj _ =>
    let command ← match j.get "command" with
      | .str c => pure c
      | _ => throw bad
    let collection ← match j.get "collection" with
      | .null => pure none
      | .str c => pure (some c)
      | _ => throw bad
    let skip ← defaultedMember "field faults" j "skip" Decoder.uint64 0
    let times ← optionalMember "field faults" j "times" Decoder.uint64
    let failure ← match j.get "error", j.get "write_error" with
      | .null, .null => pure none
      | .null, w => (some ∘ fun (c, m) => CommandFailure.write c m) <$> codeAndMessage w
      | e, _ => (some ∘ fun (c, m) => CommandFailure.command c m) <$> codeAndMessage e
    return ⟨command, collection, skip, times, failure⟩
  | _ => throw bad

def documentSpec (j : Json) : Except Failure DocumentSpec := do
  let database ← orDefault j "database" Decoder.string "publishing"
  let faults ← match j.get "faults" with
    | .null => pure []
    | .arr fs => fs.mapM serverFault
    | _ => throw (.badInput "field faults")
  let collections ← match j.get "collections" with
    | .null => pure []
    | .obj cs => cs.mapM fun (name, docs) => match docs with
      | .arr ds => do
        let objects ← ds.mapM fun d => match d with
          | .obj fs => pure (asStoredFields fs)
          | _ => throw (Failure.badInput "mongo")
        pure (name, objects)
      | _ => throw (Failure.badInput "field collections")
    | _ => throw (.badInput "field collections")
  return ⟨faults, collections, database⟩

def recordMembers : Json → List (String × Json)
  | .obj fs => fs
  | _ => []

def DocumentSpec.server (d : DocumentSpec) (seed : SeedData) : DocumentServer :=
  let s := { DocumentServer.empty with faults := d.faults, database := d.database }
  let s := s.seed infoCollection (seed.info.map fun r => recordMembers r.toJson)
  let s := s.seed repositoryCollection (seed.repositories.map fun r => recordMembers r.toJson)
  let s := s.seed questionCollection (seed.questions.map fun r => recordMembers r.toJson)
  let s := s.seed proposalCollection (seed.proposals.map fun r => recordMembers r.toJson)
  d.collections.foldl (fun s (name, docs) => s.seed name docs) s

def DocumentSpec.connect (d : DocumentSpec) (seed : SeedData) : Except Failure DocumentServer :=
  match (Documents.connect DocumentServer.commands).run (d.server seed) with
  | (.ok (), s) => .ok { s with log := [] }
  | (.error e, _) => .error (.storage e)

/-- What the request sets up: the world its steps start from. -/
structure Setup where
  seed : SeedData
  directory : DirectorySeed
  now : Int
  settings : Settings
  errorDetail : Bool
  storeFaults : List (FaultRule StoreMethod StoreEffect)
  directoryFaults : List (FaultRule DirectoryMethod DirectoryEffect)
  sendDelayMs : Nat
  relational : Option RelationalSpec
  documents : Option DocumentSpec
  deriving Inhabited

def defaultServiceSettings (s : Settings) : Settings :=
  { s with appUrl := "app.localhost", overviewExpiry := 43200, logoExpiry := 3600,
           notificationTimeoutMs := 10000 }

def readSetup (j : Json) : Except Failure Setup := do
  let errorDetail ← orDefault j "error_detail" Decoder.bool false
  let seed ← orDefault j "documents" SeedData.decoder SeedData.empty
  let directory ← orDefault j "directory" DirectorySeed.decoder DirectorySeed.empty
  let now ← orDefault j "now" Decoder.int64 1000
  let baseUrl ← orDefault j "base_url" Decoder.string "https://files.example.org"
  let secret ← orDefault j "secret" Decoder.string "secret"
  let appUrl ← orDefault j "app_url" Decoder.string "app.example.org"
  let sender ← orDefault j "from" Decoder.string "publishing@example.org"
  let overviewExpiry ← orDefault j "overview_expiry" Decoder.uint64 43200
  let logoExpiry ← orDefault j "logo_expiry" Decoder.uint64 3600
  let templates ← templateSource j
  let storeFaults ← faultRules j "store_faults" StoreMethod.ofName? StoreEffect.ofName?
  let directoryFaults ← faultRules j "directory_faults" DirectoryMethod.ofName? DirectoryEffect.ofName?
  let sendDelayMs ← orDefault j "send_delay_ms" Decoder.uint64 0
  let timeout ← orDefault j "notification_timeout_ms" Decoder.uint64 10000
  let documents ← (j.field? "mongo").mapM documentSpec
  let relational ← (j.field? "postgres").mapM relationalSpec
  let settings : Settings := ⟨appUrl, overviewExpiry, logoExpiry, timeout, sender,
    templates, UrlSigner.make baseUrl secret⟩
  return ⟨seed, directory, now, settings, errorDetail, storeFaults, directoryFaults, sendDelayMs,
    relational, documents⟩

/-- What a request chooses by name, read once its databases answer: whether the service runs
with its default settings (`config` is `default`), and the mail transport. -/
structure Choices where
  useDefaults : Bool
  transport : Transport
  deriving Inhabited

def readChoices (j : Json) : Except Failure Choices := do
  let useDefaults ← match ← maybe j "config" Decoder.string with
    | none => pure false
    | some "default" => pure true
    | some _ => throw (Failure.badInput "config")
  let transport ← match ← maybe j "transport" Decoder.string with
    | none | some "memory" => pure Transport.memory
    | some "log" => pure Transport.log
    | some _ => throw (Failure.badInput "transport")
  return ⟨useDefaults, transport⟩

def Choices.apply (c : Choices) (w : World) : World :=
  { w with settings := if c.useDefaults then defaultServiceSettings w.settings else w.settings,
           mailer := { w.mailer with transport := c.transport } }

def RelationalSpec.connect (r : RelationalSpec) : Except Failure RelationalDirectory :=
  match r.startupError with
  | some (_, message) =>
    .error (.directory (.backend ("connect: error returned from database: " ++ message)))
  | none => .ok ⟨⟨r.rules, []⟩, r.organizationId, r.welcomeSlug⟩

def Setup.world (s : Setup) : Except Failure World := do
  let documents ← match s.documents with
    | none => pure none
    | some d => some <$> d.connect s.seed
  let relational ← match s.relational with
    | none => pure none
    | some r => some <$> r.connect
  let directory := if relational.isSome then MemoryDirectory.empty else MemoryDirectory.ofSeed s.directory
  let mailer : Mailer := ⟨Transport.memory, false, s.sendDelayMs, []⟩
  return ⟨s.settings, MemoryStore.ofSeed s.seed, documents, directory, relational,
    FaultPlan.ofRules s.storeFaults, FaultPlan.ofRules s.directoryFaults, s.now, mailer, 0, []⟩

end Bench
end DatasetProposals
