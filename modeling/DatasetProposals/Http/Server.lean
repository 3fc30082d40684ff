import DatasetProposals.Http.Body
import DatasetProposals.Http.Claims
import DatasetProposals.Http.Form
import DatasetProposals.Service.Operations
/-! The HTTP interface of the publishing service: the target, cross-origin handling, the content
type, the API key and routing, from the outside in, then the handlers. -/
namespace DatasetProposals
namespace Http

/-- What a route does. -/
inductive Endpoint where
  | health
  | info
  | repositories
  | questions
  | listProposals
  | createProposal
  | updateProposal
  | deleteProposal
  | submitProposal
  | withdrawProposal
  | listSubmissions
  | acceptProposal
  | rejectProposal
  deriving Repr, DecidableEq, Inhabited

def routes : List (String × List (String × Endpoint)) :=
  [("/health", [("GET", .health)]),
   ("/publishing/info", [("GET", .info)]),
   ("/publishing/repositories", [("GET", .repositories)]),
   ("/publishing/questions", [("GET", .questions)]),
   ("/publishing/proposal", [("GET", .listProposals), ("POST", .createProposal),
     ("PUT", .updateProposal), ("DELETE", .deleteProposal)]),
   ("/publishing/proposal/submit", [("POST", .submitProposal)]),
   ("/publishing/proposal/withdraw", [("POST", .withdrawProposal)]),
   ("/publishing/submission", [("GET", .listSubmissions)]),
   ("/publishing/submission/accept", [("POST", .acceptProposal)]),
   ("/publishing/submission/reject", [("POST", .rejectProposal)])]

/-- Where a request goes. -/
inductive Route where
  | endpoint (e : Endpoint)
  | wrongMethod
  | unknownPath
  deriving Repr, DecidableEq, Inhabited

def route (method path : String) : Route :=
  match routes.find? (·.1 == path) with
  | none => .unknownPath
  | some (_, methods) =>
    let asked := if method == "HEAD" then "GET" else method
    match methods.find? (·.1 == asked) with
    | some (_, e) => .endpoint e
    | none => .wrongMethod

/-- Why a handler did not answer with its result. -/
inductive HandlerError where
  | refused (r : Refusal)
  | query (e : QueryError)
  | service (e : ServiceError)
  deriving Repr, Inhabited

def serviceStatus : ServiceError → Nat
  | .notFound .. => 404
  | .invalidState .. | .validation .. => 400
  | .conflict .. => 409
  | .timeout _ => 504
  | .ambiguous .. | .external .. | .store .. => 500

def HandlerError.response : HandlerError → Response
  | .refused (.unauthorized m) => Response.error 401 m
  | .refused (.badRequest m) => Response.error 400 m
  | .query e => ⟨400, [], .text e.message⟩
  | .service e =>
    match serviceStatus e with
    | 504 => Response.error 504 "request timed out"
    | 500 => Response.error 500 "internal server error"
    | status => Response.error status e.message

abbrev Handler := ExceptT HandlerError Act

namespace Handler

def refuse {α : Type} (r : Refusal) : Handler α := throw (.refused r)

def check {α : Type} : Except Refusal α → Handler α
  | .ok a => pure a
  | .error r => refuse r

def call {α : Type} (act : ServiceAct α) : Handler α :=
  ExceptT.mk do
    match ← act.exec with
    | .ok a => pure (.ok a)
    | .error e => pure (.error (.service e))

def claims (r : Request) : Handler Claims := check (Claims.ofRequest r)

def param (r : Request) (name : String) : Handler (Option String) :=
  match queryParam r.query? name with
  | .ok v => pure v
  | .error e => throw (.query e)

def required (value : Option String) (name : String) : Handler String :=
  match value with
  | some v => if Text.isBlankText v then refuse (.badRequest ("missing required parameter: " ++ name)) else pure v
  | none => refuse (.badRequest ("missing required parameter: " ++ name))

def proposalBody (r : Request) : Handler ProposalDto :=
  match r.readJson ProposalDto.decoder with
  | .ok d => pure d
  | .error e => refuse (.badRequest ("invalid request body: " ++ e.message))

end Handler

open Handler in
def Endpoint.run (version : String) : Endpoint → Request → Handler (Nat × Json)
  | .health, _ => pure (200, .obj [("status", .str "ok"), ("version", .str version)])
  | .info, r => do
    let _ ← claims r
    let info ← call Service.publishingInfo
    pure (200, .arr (info.map Service.InfoDto.toJson))
  | .repositories, r => do
    let _ ← claims r
    let repositories ← call Service.publishingRepositories
    pure (200, .arr (repositories.map Service.RepositoryDto.toJson))
  | .questions, r => do
    let _ ← claims r
    let questions ← call Service.proposalQuestions
    pure (200, .arr (questions.map Service.QuestionDto.toJson))
  | .listProposals, r => do
    let c ← claims r
    let proposals ← call (Service.proposalsForUser c.userId)
    pure (200, .arr (proposals.map ProposalDto.toJson))
  | .createProposal, r => do
    let c ← claims r
    let input ← proposalBody r
    let created ← call (Service.createProposal c.userId input)
    pure (201, created.toJson)
  | .updateProposal, r => do
    let c ← claims r
    let update ← proposalBody r
    if Text.isBlankText update.proposalNodeId then
      refuse (.badRequest "missing required field: ProposalNodeId")
    let existing ← call (Service.getProposal c.userId update.proposalNodeId)
    let updated ← call (Service.updateProposal c.userId existing update)
    pure (200, updated.toJson)
  | .deleteProposal, r => do
    let c ← claims r
    let nodeId ← required (← param r "proposal_node_id") "proposal_node_id"
    let proposal ← call (Service.getProposal c.userId nodeId)
    call (Service.deleteProposal proposal)
    pure (200, proposal.toJson)
  | .submitProposal, r => do
    let c ← claims r
    let nodeId ← required (← param r "node_id") "node_id"
    pure (200, (← call (Service.submitProposal c.userId nodeId)).toJson)
  | .withdrawProposal, r => do
    let c ← claims r
    let nodeId ← required (← param r "node_id") "node_id"
    pure (200, (← call (Service.withdrawProposal c.userId nodeId)).toJson)
  | .listSubmissions, r => do
    let c ← claims r
    let asked ← param r "status"
    let workspace ← check c.publishingWorkspace
    let status ← match asked with
      | none | some "" => pure Status.submitted
      | some raw =>
        match Status.parse? raw with
        | some s => pure s
        | none => refuse (.badRequest (Status.unknownMessage raw))
    let listing ← call (Service.proposalsForWorkspace workspace.nodeId status)
    pure (200, Service.submissionsJson listing)
  | .acceptProposal, r => do
    let c ← claims r
    let asked ← param r "node_id"
    let workspace ← check c.publishingWorkspace
    let nodeId ← required asked "node_id"
    pure (200, (← call (Service.acceptProposal workspace.id nodeId)).toJson)
  | .rejectProposal, r => do
    let c ← claims r
    let asked ← param r "node_id"
    let workspace ← check c.publishingWorkspace
    let nodeId ← required asked "node_id"
    pure (200, (← call (Service.rejectProposal workspace.id nodeId)).toJson)

/-- What the interface is set up with: the API key requests must present, when there is one,
and the version the health check reports. -/
structure Interface where
  apiKey : Option String
  version : String
  deriving Repr, Inhabited

def corsVary : String := "origin, access-control-request-method, access-control-request-headers"

def preflightResponse : Response :=
  ⟨200, [("access-control-allow-origin", "*"), ("access-control-allow-methods", "GET,POST,PUT,DELETE"),
    ("access-control-allow-headers", "*"), ("vary", corsVary)], .empty⟩

def Request.isPreflight (r : Request) : Bool := r.method == "OPTIONS"

def Request.presentedKey? (r : Request) : Option String :=
  let bearer := (r.headerText? "authorization").bind fun v =>
    if v.startsWith "Bearer " then some (String.ofList (v.toList.drop 7)) else none
  bearer.orElse fun _ => r.headerText? "x-api-key"

namespace Interface

def keyRefusal? (i : Interface) (r : Request) : Option Response :=
  match i.apiKey with
  | none => none
  | some key =>
    if r.path == "/health" then none
    else
      match r.presentedKey? with
      | some k => if k == key then none else some (Response.error 403 "invalid API key")
      | none => some (Response.error 401 "authentication required")

def dispatch (i : Interface) (r : Request) : Act Response :=
  match route r.method r.path with
  | .unknownPath => pure (Response.error 404 "not found")
  | .wrongMethod => pure ⟨405, [], .empty⟩
  | .endpoint e => do
    match ← ((e.run i.version r).run : Act _) with
    | .ok (status, j) => pure (Response.ofJson status j)
    | .error err => pure err.response

def respond (i : Interface) (r : Request) : Act Response := do
  if !r.hasValidTarget then return ⟨400, [], .empty⟩
  if r.isPreflight then return preflightResponse
  let inner ← match i.keyRefusal? r with
    | some refusal => pure refusal
    | none => i.dispatch r
  let typed := inner.setHeader "content-type" "application/json; charset=utf-8"
  let shown := (typed.addHeader "access-control-allow-origin" "*").addHeader "vary" corsVary
  return if r.method == "HEAD" then { shown with payload := .empty } else shown

end Interface

end Http
end DatasetProposals
