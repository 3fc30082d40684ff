/-! The command line of the `publishing` program as data: one record per option, from which help
texts, usage lines and error messages are computed. -/
namespace DatasetProposals
namespace Cli

/-- A value an option may take from a fixed list, with an optional line of help. -/
structure Choice where
  name : String
  help : Option String
  deriving Repr, BEq, Inhabited

/-- What an option's value must look like. -/
inductive ValueKind where
  | text
  | path
  | socketAddress
  | unsigned64
  | unsigned32
  | signed64
  | choice (choices : List Choice)
  | attribute
  deriving Repr, BEq, Inhabited

/-- What giving an option does. -/
inductive Action where
  | set
  | append
  | help
  | version
  deriving Repr, BEq, Inhabited

/-- A named option, `--long <VALUE>`. -/
structure Arg where
  id : String
  long : String
  short : Option Char
  valueName : String
  help : Option String
  longHelp : Option String
  env : Option String
  default : Option String
  kind : ValueKind
  action : Action
  order : Nat
  deriving Repr, Inhabited

namespace Arg

def takesValue (a : Arg) : Bool := a.action == .set || a.action == .append

def spec (a : Arg) : String :=
  "--" ++ a.long ++ (if a.takesValue then " <" ++ a.valueName ++ ">" else "")

def choices (a : Arg) : List Choice :=
  match a.kind with
  | .choice cs => cs
  | _ => []

def valued (id long valueName : String) (help : Option String) (env : Option String)
    (default : Option String) (kind : ValueKind) (order : Nat) : Arg :=
  ⟨id, long, none, valueName, help, none, env, default, kind, .set, order⟩

end Arg

/-- A value given by position, `<FILE>`. -/
structure Positional where
  id : String
  valueName : String
  help : Option String
  kind : ValueKind
  required : Bool
  many : Bool
  deriving Repr, Inhabited

def Positional.spec (p : Positional) : String :=
  (if p.required then "<" ++ p.valueName ++ ">" else "[" ++ p.valueName ++ "]") ++
    (if p.many then "..." else "")

/-- A command: the words that run it, what it is for, its options in the order they were
declared, and its positional values. -/
structure Command where
  name : String
  usageName : String
  about : String
  options : List Arg
  positionals : List Positional
  deriving Repr, Inhabited

namespace Command

def findLong? (c : Command) (long : String) : Option Arg := c.options.find? (·.long == long)

def findShort? (cmd : Command) (c : Char) : Option Arg := cmd.options.find? (·.short == some c)

def findId? (c : Command) (id : String) : Option Arg := c.options.find? (·.id == id)

def hasHelpFlag (c : Command) : Bool := (c.findId? "help").isSome

def longHelpExists (c : Command) : Bool :=
  c.options.any (fun a => a.longHelp.isSome || a.choices.any (·.help.isSome))

end Command

def programName : String := "publishing"

def programVersion : String := "0.1.0"

def logFormats : List Choice := [⟨"text", none⟩, ⟨"json", none⟩]

def globalOptions : List Arg :=
  [Arg.valued "log_level" "log-level" "LOG_LEVEL"
      (some "Log level or filter directive (overridden by RUST_LOG)") (some "LOG_LEVEL")
      (some "info") .text 0,
   Arg.valued "log_format" "log-format" "LOG_FORMAT" (some "Log output format")
      (some "LOG_FORMAT") (some "text") (.choice logFormats) 1]

def helpFlag (longHelpExists : Bool) : Arg :=
  if longHelpExists then
    ⟨"help", "help", some 'h', "", some "Print help (see more with '--help')",
      some "Print help (see a summary with '-h')", none, none, .text, .help, 999⟩
  else ⟨"help", "help", some 'h', "", some "Print help", none, none, none, .text, .help, 999⟩

def versionFlag : Arg :=
  ⟨"version", "version", some 'V', "", some "Print version", none, none, none, .text, .version, 999⟩

def serveOwnOptions : List Arg :=
  let o := Arg.valued
  [o "listen" "listen" "LISTEN" (some "Address to listen on") (some "LISTEN") (some "0.0.0.0:8080")
      .socketAddress 0,
   o "request_timeout_secs" "request-timeout-secs" "REQUEST_TIMEOUT_SECS"
      (some "Upper bound on one request, in seconds") (some "REQUEST_TIMEOUT_SECS") (some "30")
      .unsigned64 1,
   o "api_key" "api-key" "API_KEY" (some "Shared API key required on every route but /health")
      (some "PUBLISHING_API_KEY") none .text 2,
   o "tls_cert" "tls-cert" "TLS_CERT" (some "TLS certificate PEM file (requires --tls-key)")
      (some "TLS_CERT") none .path 3,
   o "tls_key" "tls-key" "TLS_KEY" (some "TLS private key PEM file (requires --tls-cert)")
      (some "TLS_KEY") none .path 4,
   o "document_store" "document-store" "DOCUMENT_STORE" none (some "DOCUMENT_STORE") (some "mongo")
      (.choice [⟨"mongo", none⟩, ⟨"memory", none⟩]) 5,
   o "mongodb_uri" "mongodb-uri" "MONGODB_URI" none (some "MONGODB_URI")
      (some "mongodb://localhost:27017") .text 6,
   o "mongodb_db" "mongodb-db" "MONGODB_DB" none (some "MONGODB_DB") (some "publishing") .text 7,
   o "relational_store" "relational-store" "RELATIONAL_STORE" none (some "RELATIONAL_STORE")
      (some "postgres") (.choice [⟨"postgres", none⟩, ⟨"memory", none⟩]) 8,
   o "database_url" "database-url" "DATABASE_URL" none (some "DATABASE_URL") none .text 9,
   o "database_max_connections" "database-max-connections" "DATABASE_MAX_CONNECTIONS" none
      (some "DATABASE_MAX_CONNECTIONS") (some "5") .unsigned32 10,
   o "publishing_organization_id" "publishing-organization-id" "PUBLISHING_ORGANIZATION_ID"
      (some "Organization that receives datasets for accepted proposals")
      (some "PUBLISHING_ORGANIZATION_ID") none .signed64 11,
   o "welcome_workspace_slug" "welcome-workspace-slug" "WELCOME_WORKSPACE_SLUG"
      (some "Workspace linked from acceptance and rejection emails")
      (some "WELCOME_WORKSPACE_SLUG") (some "welcome") .text 12,
   o "email_transport" "email-transport" "EMAIL_TRANSPORT" none (some "EMAIL_TRANSPORT")
      (some "relay")
      (.choice [⟨"relay", some "POST each message as JSON to an HTTP relay"⟩,
        ⟨"log", some "Log each message instead of sending it"⟩]) 13,
   o "email_relay_url" "email-relay-url" "EMAIL_RELAY_URL" none (some "EMAIL_RELAY_URL") none
      .text 14,
   o "email_relay_token" "email-relay-token" "EMAIL_RELAY_TOKEN" none (some "EMAIL_RELAY_TOKEN")
      none .text 15,
   o "email_from" "email-from" "EMAIL_FROM" none (some "EMAIL_FROM") (some "publishing@localhost")
      .text 16,
   o "app_domain" "app-domain" "APP_DOMAIN"
      (some "Domain of the web application; emails link to `app.<domain>`") (some "APP_DOMAIN")
      (some "localhost") .text 17,
   o "template_dir" "template-dir" "TEMPLATE_DIR"
      (some "Root directory holding template buckets; built-in templates when unset")
      (some "TEMPLATE_DIR") none .path 18,
   o "template_bucket" "template-bucket" "TEMPLATE_BUCKET" none (some "TEMPLATE_BUCKET")
      (some "templates") .text 19,
   o "template_submitted" "template-submitted" "TEMPLATE_SUBMITTED" none
      (some "TEMPLATE_SUBMITTED") (some "proposal_submitted.html") .text 20,
   o "template_withdrawn" "template-withdrawn" "TEMPLATE_WITHDRAWN" none
      (some "TEMPLATE_WITHDRAWN") (some "proposal_withdrawn.html") .text 21,
   o "template_accepted" "template-accepted" "TEMPLATE_ACCEPTED" none
      (some "TEMPLATE_ACCEPTED") (some "proposal_accepted.html") .text 22,
   o "template_rejected" "template-rejected" "TEMPLATE_REJECTED" none
      (some "TEMPLATE_REJECTED") (some "proposal_rejected.html") .text 23,
   o "notification_timeout_secs" "notification-timeout-secs" "NOTIFICATION_TIMEOUT_SECS"
      (some "Upper bound on one notification step, in seconds") (some "NOTIFICATION_TIMEOUT_SECS")
      (some "10") .unsigned64 24,
   o "file_base_url" "file-base-url" "FILE_BASE_URL" (some "Base URL presigned file links point at")
      (some "FILE_BASE_URL") (some "http://localhost:9000") .text 25,
   o "url_signing_secret" "url-signing-secret" "URL_SIGNING_SECRET" none
      (some "URL_SIGNING_SECRET") none .text 26,
   o "overview_url_expiry_secs" "overview-url-expiry-secs" "OVERVIEW_URL_EXPIRY_SECS" none
      (some "OVERVIEW_URL_EXPIRY_SECS") (some "43200") .unsigned64 27,
   o "logo_url_expiry_secs" "logo-url-expiry-secs" "LOGO_URL_EXPIRY_SECS" none
      (some "LOGO_URL_EXPIRY_SECS") (some "3600") .unsigned64 28,
   o "seed" "seed" "SEED" (some "JSON seed for the in-memory backends") (some "PUBLISHING_SEED")
      none .path 29]

def serveCommand : Command :=
  let withGlobals := serveOwnOptions ++ globalOptions
  let bare : Command := ⟨"serve", programName ++ " serve", "Start the publishing HTTP API server",
    withGlobals, []⟩
  { bare with options := withGlobals ++ [helpFlag bare.longHelpExists] }

def renderCommand : Command :=
  let attr : Arg := ⟨"attributes", "attr", none, "ATTRIBUTES",
    some "Attribute to substitute, as KEY=VALUE (repeatable)", none, none, none, .attribute,
    .append, 0⟩
  ⟨"render-template", programName ++ " render-template",
    "Render an email template with the given attributes and print it",
    [attr] ++ globalOptions ++ [helpFlag false],
    [⟨"file", "FILE", some "Path to the template file", .path, true, false⟩]⟩

def helpCommand : Command :=
  ⟨"help", programName ++ " help", "Print this message or the help of the given subcommand(s)",
    [], [⟨"subcommand", "COMMAND", some "Print help for the subcommand(s)", .text,
      false, true⟩]⟩

def programCommand : Command :=
  ⟨programName, programName, "Dataset proposal publishing service",
    globalOptions ++ [helpFlag false, versionFlag], []⟩

def subcommands : List Command := [serveCommand, renderCommand, helpCommand]

end Cli
end DatasetProposals
