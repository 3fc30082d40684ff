import DatasetProposals.Cli.Parse
import DatasetProposals.Log
/-! The server's settings as read from a command line, and the checks made, in a fixed order,
before it starts. -/
namespace DatasetProposals
namespace Cli

/-- Where proposals and catalog documents are kept. -/
inductive DocumentBackend where
  | mongo | memory
  deriving Repr, BEq, Inhabited

/-- Where users, organizations and datasets are kept. -/
inductive RelationalBackend where
  | postgres | memory
  deriving Repr, BEq, Inhabited

/-- How notification emails leave the server. -/
inductive EmailTransport where
  | relay | log
  deriving Repr, BEq, Inhabited

/-- The settings of `serve`. -/
structure ServeConfig where
  listen : SocketAddress
  requestTimeoutSecs : Nat
  apiKey : Option String
  tlsCert : Option String
  tlsKey : Option String
  documentStore : DocumentBackend
  mongodbUri : String
  mongodbDb : String
  relationalStore : RelationalBackend
  databaseUrl : Option String
  databaseMaxConnections : Nat
  publishingOrganizationId : Option Int
  welcomeWorkspaceSlug : String
  emailTransport : EmailTransport
  emailRelayUrl : Option String
  emailRelayToken : Option String
  emailFrom : String
  appDomain : String
  templateDir : Option String
  templateBucket : String
  templateSubmitted : String
  templateWithdrawn : String
  templateAccepted : String
  templateRejected : String
  notificationTimeoutSecs : Nat
  fileBaseUrl : String
  urlSigningSecret : Option String
  overviewUrlExpirySecs : Nat
  logoUrlExpirySecs : Nat
  seed : Option String
  deriving Repr, Inhabited

/-- Why the settings are refused. -/
inductive ConfigError where
  | missing (name whenText : String)
  | invalid (name reason : String)
  deriving Repr, BEq, Inhabited

def ConfigError.message : ConfigError → String
  | .missing name whenText => name ++ " is required " ++ whenText
  | .invalid name reason => name ++ " is invalid: " ++ reason

namespace ServeConfig

def ofMatches (m : Matches) : ServeConfig :=
  let text (id : String) (d : String) := (m.text? id).getD d
  let num (id : String) (d : Nat) := (m.number? id).getD d
  { listen := match m.value? "listen" with
      | some (.address a) => a
      | _ => .v4 [0, 0, 0, 0] 8080
    requestTimeoutSecs := num "request_timeout_secs" 30
    apiKey := m.text? "api_key"
    tlsCert := m.text? "tls_cert"
    tlsKey := m.text? "tls_key"
    documentStore := if text "document_store" "mongo" == "memory" then .memory else .mongo
    mongodbUri := text "mongodb_uri" "mongodb://localhost:27017"
    mongodbDb := text "mongodb_db" "publishing"
    relationalStore := if text "relational_store" "postgres" == "memory" then .memory else .postgres
    databaseUrl := m.text? "database_url"
    databaseMaxConnections := num "database_max_connections" 5
    publishingOrganizationId := m.integer? "publishing_organization_id"
    welcomeWorkspaceSlug := text "welcome_workspace_slug" "welcome"
    emailTransport := if text "email_transport" "relay" == "log" then .log else .relay
    emailRelayUrl := m.text? "email_relay_url"
    emailRelayToken := m.text? "email_relay_token"
    emailFrom := text "email_from" "publishing@localhost"
    appDomain := text "app_domain" "localhost"
    templateDir := m.text? "template_dir"
    templateBucket := text "template_bucket" "templates"
    templateSubmitted := text "template_submitted" "proposal_submitted.html"
    templateWithdrawn := text "template_withdrawn" "proposal_withdrawn.html"
    templateAccepted := text "template_accepted" "proposal_accepted.html"
    templateRejected := text "template_rejected" "proposal_rejected.html"
    notificationTimeoutSecs := num "notification_timeout_secs" 10
    fileBaseUrl := text "file_base_url" "http://localhost:9000"
    urlSigningSecret := m.text? "url_signing_secret"
    overviewUrlExpirySecs := num "overview_url_expiry_secs" 43200
    logoUrlExpirySecs := num "logo_url_expiry_secs" 3600
    seed := m.text? "seed" }

def validate (c : ServeConfig) : Except ConfigError Unit := do
  if (c.urlSigningSecret.getD "").isEmpty then
    throw (.missing "URL_SIGNING_SECRET" "to sign file URLs")
  if c.relationalStore == .postgres then
    if c.databaseUrl.isNone then
      throw (.missing "DATABASE_URL" "when the relational store is postgres")
    if c.publishingOrganizationId.isNone then
      throw (.missing "PUBLISHING_ORGANIZATION_ID" "when the relational store is postgres")
  if c.emailTransport == .relay && c.emailRelayUrl.isNone then
    throw (.missing "EMAIL_RELAY_URL" "when the email transport is relay")
  if c.tlsCert.isSome != c.tlsKey.isSome then
    throw (.invalid "TLS_CERT/TLS_KEY" "both must be provided or neither")
  if c.requestTimeoutSecs == 0 then
    throw (.invalid "REQUEST_TIMEOUT_SECS" "must be greater than zero")
  if c.notificationTimeoutSecs == 0 then
    throw (.invalid "NOTIFICATION_TIMEOUT_SECS" "must be greater than zero")

def appUrl (c : ServeConfig) : String := "app." ++ c.appDomain

def requiredKey? (c : ServeConfig) : Option String := c.apiKey.filter (!·.isEmpty)

end ServeConfig

def logSettings (m : Matches) : String × Log.Format :=
  ((m.text? "log_level").getD "info", if m.text? "log_format" == some "json" then .json else .text)

end Cli
end DatasetProposals
