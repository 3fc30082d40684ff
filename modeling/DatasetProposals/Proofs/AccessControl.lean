import DatasetProposals.Http.Server
/-! Access control and error exposure of the HTTP interface. Main statement:
`interface_guards_requests`. -/
namespace DatasetProposals
namespace Http

/-! The layers outside the router. -/

def Request.dress (r : Request) (inner : Response) : Response :=
  let typed := inner.setHeader "content-type" "application/json; charset=utf-8"
  let shown := (typed.addHeader "access-control-allow-origin" "*").addHeader "vary" corsVary
  if r.method == "HEAD" then { shown with payload := .empty } else shown

@[simp] theorem Request.dress_status (r : Request) (inner : Response) :
    (r.dress inner).status = inner.status := by
  unfold Request.dress
  split <;> rfl

namespace Interface
variable (i : Interface) {r : Request} {w : World}

theorem respond_unreadable (unreadable : r.hasValidTarget = false) :
    (i.respond r).run w = (⟨400, [], .empty⟩, w) := by
  simp only [respond, unreadable]
  rfl

theorem respond_preflight (valid : r.hasValidTarget = true) (preflight : r.isPreflight = true) :
    (i.respond r).run w = (preflightResponse, w) := by
  simp only [respond, valid, preflight]
  rfl

theorem respond_refused (valid : r.hasValidTarget = true) (ordinary : r.isPreflight = false)
    {refusal : Response} (refused : i.keyRefusal? r = some refusal) :
    (i.respond r).run w = (r.dress refusal, w) := by
  simp only [respond, valid, ordinary, refused]
  rfl

theorem respond_admitted (valid : r.hasValidTarget = true) (ordinary : r.isPreflight = false)
    (admitted : i.keyRefusal? r = none) :
    (i.respond r).run w = (r.dress ((i.dispatch r).run w).1, ((i.dispatch r).run w).2) := by
  simp only [respond, valid, ordinary, admitted]
  rfl

/-! The API key. -/

theorem keyRefusal?_open (exempt : i.apiKey = none ∨ r.path = "/health") : i.keyRefusal? r = none := by
  unfold keyRefusal?
  rcases exempt with keyless | health
  · rw [keyless]
  · split <;> simp [health]

section Keyed
variable {i} {K : String}

theorem keyRefusal?_eq_none_iff (keyed : i.apiKey = some K) (guarded : r.path ≠ "/health") :
    i.keyRefusal? r = none ↔ r.presentedKey? = some K := by
  simp only [keyRefusal?, keyed, beq_iff_eq, guarded, if_false]
  cases r.presentedKey? with
  | none => simp
  | some k => by_cases same : k = K <;> simp [same]

theorem keyRefusal?_of_wrong (keyed : i.apiKey = some K) (guarded : r.path ≠ "/health") {k : String}
    (presented : r.presentedKey? = some k) (wrong : k ≠ K) :
    i.keyRefusal? r = some (Response.error 403 "invalid API key") := by
  simp [keyRefusal?, keyed, guarded, presented, wrong]

theorem keyRefusal?_of_missing (keyed : i.apiKey = some K) (guarded : r.path ≠ "/health")
    (missing : r.presentedKey? = none) :
    i.keyRefusal? r = some (Response.error 401 "authentication required") := by
  simp [keyRefusal?, keyed, guarded, missing]

end Keyed

end Interface

theorem sameName_of_foldAscii_eq (a b : String) (folded : Status.foldAscii a = Status.foldAscii b) :
    sameName a b = true := by
  simp [sameName, Status.equalsIgnoringAsciiCase, folded]

theorem sameName_of_foldAscii_ne (a b : String) (folded : Status.foldAscii a ≠ Status.foldAscii b) :
    sameName a b = false := by
  simp [sameName, Status.equalsIgnoringAsciiCase, folded]

namespace Request
variable {r : Request}

theorem presentedKey?_of_bearer {k : String}
    (bearer : r.headerText? "authorization" = some ("Bearer " ++ k)) : r.presentedKey? = some k := by
  have prefixed : ("Bearer " ++ k).startsWith "Bearer " = true :=
    String.startsWith_string_iff.mpr ⟨k.toList, String.toList_append.symm⟩
  have token : String.ofList (("Bearer " ++ k).toList.drop 7) = k := by
    rw [String.toList_append, List.drop_left' (by decide), String.ofList_toList]
  simp only [presentedKey?, bearer, Option.bind_some, prefixed, if_true, token]
  rfl

theorem presentedKey?_of_not_bearer (other : ∀ k, r.headerText? "authorization" ≠ some ("Bearer " ++ k)) :
    r.presentedKey? = r.headerText? "x-api-key" := by
  unfold presentedKey?
  cases auth : r.headerText? "authorization" with
  | none => rfl
  | some v =>
    have unprefixed : v.startsWith "Bearer " = false := by
      rw [String.startsWith_string_eq_false_iff]
      rintro ⟨rest, split⟩
      apply other (String.ofList rest)
      rw [auth]
      congr 1
      apply String.toList_inj.mp
      simpa [String.toList_append] using split.symm
    simp only [Option.bind_some, unprefixed, Bool.false_eq_true, if_false]
    rfl

end Request

/-! The caller's claims. -/

theorem readSigned64?_empty : readSigned64? "" = none := rfl

namespace Claims
variable {r : Request}

theorem claimText?_eq_some {name t : String} :
    claimText? r name = some t ↔ ∃ v, r.headerText? name = some v ∧ Text.trim v = t ∧ t ≠ "" := by
  simp only [claimText?, Option.filter_eq_some_iff, Option.map_eq_some_iff, Bool.not_eq_eq_eq_not,
    Bool.not_true, String.isEmpty_eq_false_iff]
  constructor
  · rintro ⟨⟨v, given, trimmed⟩, nonempty⟩
    exact ⟨v, given, trimmed, nonempty⟩
  · rintro ⟨v, given, trimmed, nonempty⟩
    exact ⟨⟨v, given, trimmed⟩, nonempty⟩

theorem claimNumber?_eq_some {name : String} {n : Int} :
    (claimText? r name).bind readSigned64? = some n ↔
      ∃ v, r.headerText? name = some v ∧ readSigned64? (Text.trim v) = some n := by
  rw [Option.bind_eq_some_iff]
  constructor
  · rintro ⟨t, text, read⟩
    obtain ⟨v, given, rfl, -⟩ := claimText?_eq_some.mp text
    exact ⟨v, given, read⟩
  · rintro ⟨v, given, read⟩
    have nonempty : Text.trim v ≠ "" := fun empty => by
      rw [empty, readSigned64?_empty] at read
      cases read
    exact ⟨_, claimText?_eq_some.mpr ⟨v, given, rfl, nonempty⟩, read⟩

theorem ofRequest_of_unreadable
    (unreadable : ∀ v, r.headerText? "x-user-id" = some v → readSigned64? (Text.trim v) = none) :
    ofRequest r = .error (.unauthorized "missing or invalid user claim") := by
  have missing : (claimText? r "x-user-id").bind readSigned64? = none := by
    rw [Option.eq_none_iff_forall_ne_some]
    intro n read
    obtain ⟨v, given, parsed⟩ := claimNumber?_eq_some.mp read
    rw [unreadable v given] at parsed
    cases parsed
  simp only [ofRequest, missing]

theorem ofRequest_of_readable {v : String} {u : Int} (given : r.headerText? "x-user-id" = some v)
    (read : readSigned64? (Text.trim v) = some u) : ∃ c, ofRequest r = .ok c ∧ c.userId = u := by
  have found : (claimText? r "x-user-id").bind readSigned64? = some u := claimNumber?_eq_some.mpr ⟨v, given, read⟩
  simp only [ofRequest, found]
  exact ⟨_, rfl, rfl⟩

theorem ofRequest_fields {c : Claims} (claims : ofRequest r = .ok c) :
    c.organizationId = (claimText? r "x-organization-id").bind readSigned64? ∧
      c.organizationNodeId = claimText? r "x-organization-node-id" ∧
      c.publisher = (claimText? r "x-publisher").any (Status.equalsIgnoringAsciiCase "true") := by
  unfold ofRequest at claims
  split at claims
  · cases claims
  · cases claims
    exact ⟨rfl, rfl, rfl⟩

theorem publishingWorkspace_eq_ok_iff {c : Claims} {ws : Workspace} :
    c.publishingWorkspace = .ok ws ↔
      c.publisher = true ∧ c.organizationId = some ws.id ∧ c.organizationNodeId = some ws.nodeId := by
  obtain ⟨id, nodeId⟩ := ws
  unfold publishingWorkspace
  cases c.publisher
  · simp
  · cases c.organizationId <;> cases c.organizationNodeId <;> simp

theorem publishingWorkspace_refusal {c : Claims} {ref : Refusal} (refused : c.publishingWorkspace = .error ref) :
    ∃ m, ref = .unauthorized m := by
  unfold publishingWorkspace at refused
  split at refused
  · cases refused
    exact ⟨_, rfl⟩
  · split at refused
    · cases refused
    · cases refused
      exact ⟨_, rfl⟩

end Claims

/-- `r` carries the claims of a publisher of workspace `ws`: `X-Publisher: true` in any letter
case, `ws`'s id as a signed 64-bit `X-Organization-Id`, and `ws`'s node id, not empty, as
`X-Organization-Node-Id`, each value read without the blanks around it. -/
structure Request.PublishesFor (r : Request) (ws : Workspace) : Prop where
  publisher : ∃ v, r.headerText? "x-publisher" = some v ∧
    Status.equalsIgnoringAsciiCase "true" (Text.trim v) = true
  organizationId : ∃ v, r.headerText? "x-organization-id" = some v ∧ readSigned64? (Text.trim v) = some ws.id
  organizationNodeId : ∃ v, r.headerText? "x-organization-node-id" = some v ∧ Text.trim v = ws.nodeId ∧
    ws.nodeId ≠ ""

theorem Claims.publishingWorkspace_eq_ok_iff_publishesFor {r : Request} {c : Claims} {ws : Workspace}
    (claims : Claims.ofRequest r = .ok c) : c.publishingWorkspace = .ok ws ↔ r.PublishesFor ws := by
  obtain ⟨organizationId, organizationNodeId, publisher⟩ := ofRequest_fields claims
  rw [publishingWorkspace_eq_ok_iff, organizationId, organizationNodeId, publisher, Option.any_eq_true,
    claimNumber?_eq_some, claimText?_eq_some]
  constructor
  · rintro ⟨⟨t, text, mark⟩, number, node⟩
    obtain ⟨v, given, rfl, -⟩ := claimText?_eq_some.mp text
    exact ⟨⟨v, given, mark⟩, number, node⟩
  · rintro ⟨⟨v, given, mark⟩, number, node⟩
    -- an empty text is no `true`, so the mark's text was not dropped as empty
    have nonempty : Text.trim v ≠ "" := fun empty => by
      rw [empty] at mark
      simp [Status.equalsIgnoringAsciiCase, Status.foldAscii, String.map_eq_internal] at mark
    exact ⟨⟨_, claimText?_eq_some.mpr ⟨v, given, rfl, nonempty⟩, mark⟩, number, node⟩

/-! The handlers. -/

namespace Endpoint
variable {v : String} {r : Request} {w : World}

def publisherParameter? : Endpoint → Option String
  | .listSubmissions => some "status"
  | .acceptProposal | .rejectProposal => some "node_id"
  | _ => none

theorem run_of_claims_refused {e : Endpoint} (publishing : e ≠ .health) {ref : Refusal}
    (refused : Claims.ofRequest r = .error ref) : (e.run v r).run.run w = (.error (.refused ref), w) := by
  cases e
  case health => exact absurd rfl publishing
  all_goals
    simp only [Endpoint.run, Handler.claims, refused, Handler.check]
    rfl

theorem run_of_query_refused {e : Endpoint} {name : String} (publisher : e.publisherParameter? = some name)
    {c : Claims} (claims : Claims.ofRequest r = .ok c) {qe : QueryError}
    (doubled : queryParam r.query? name = .error qe) : (e.run v r).run.run w = (.error (.query qe), w) := by
  cases e <;> simp only [publisherParameter?, reduceCtorEq, Option.some.injEq] at publisher
  all_goals
    subst publisher
    simp only [Endpoint.run, Handler.claims, claims, Handler.check, Handler.param, doubled]
    rfl

theorem run_of_workspace_refused {e : Endpoint} {name : String} (publisher : e.publisherParameter? = some name)
    {c : Claims} (claims : Claims.ofRequest r = .ok c) {asked : Option String}
    (read : queryParam r.query? name = .ok asked) {ref : Refusal} (refused : c.publishingWorkspace = .error ref) :
    (e.run v r).run.run w = (.error (.refused ref), w) := by
  cases e <;> simp only [publisherParameter?, reduceCtorEq, Option.some.injEq] at publisher
  all_goals
    subst publisher
    simp only [Endpoint.run, Handler.claims, claims, Handler.check, Handler.param, read, pure_bind, refused]
    rfl

end Endpoint

theorem Handler.call_bind_pure_run {α : Type} (act : ServiceAct α) (view : α → Nat × Json) (w : World) :
    (Handler.call act >>= fun a => pure (view a) : Handler (Nat × Json)).run.run w =
      (((act.exec.run w).1.map view).mapError .service, (act.exec.run w).2) := by
  rcases outcome : act.exec.run w with ⟨result, w'⟩
  cases result <;>
    simp only [Handler.call, ExceptT.run_bind, ExceptT.run_mk, StateT.run_bind, outcome] <;> rfl

def askedStatus? : Option String → Option Status
  | none => some .submitted
  | some raw => if raw = "" then some .submitted else Status.parse? raw

namespace Endpoint
variable {v : String} {r : Request} {w : World} {c : Claims} {ws : Workspace}

def verdict? : Endpoint → Option (Int → String → ServiceAct ProposalDto)
  | .acceptProposal => some Service.acceptProposal
  | .rejectProposal => some Service.rejectProposal
  | _ => none

theorem verdict_run {e : Endpoint} {act : Int → String → ServiceAct ProposalDto} (verdict : e.verdict? = some act)
    (claims : Claims.ofRequest r = .ok c) (publishes : c.publishingWorkspace = .ok ws) {n : String}
    (asked : queryParam r.query? "node_id" = .ok (some n)) (given : Text.isBlankText n = false) :
    (e.run v r).run.run w =
      ((((act ws.id n).exec.run w).1.map fun p => (200, p.toJson)).mapError .service,
        ((act ws.id n).exec.run w).2) := by
  cases e <;> simp only [verdict?, reduceCtorEq, Option.some.injEq] at verdict
  all_goals
    subst verdict
    simp only [Endpoint.run, Handler.claims, claims, Handler.check, Handler.param, asked, pure_bind, publishes,
      Handler.required, given, Bool.false_eq_true, if_false]
    exact Handler.call_bind_pure_run _ _ w

theorem listSubmissions_run (claims : Claims.ofRequest r = .ok c) (publishes : c.publishingWorkspace = .ok ws)
    {asked : Option String} (read : queryParam r.query? "status" = .ok asked) {st : Status}
    (named : askedStatus? asked = some st) :
    (listSubmissions.run v r).run.run w =
      ((((Service.proposalsForWorkspace ws.nodeId st).exec.run w).1.map
          fun l => (200, Service.submissionsJson l)).mapError .service,
        ((Service.proposalsForWorkspace ws.nodeId st).exec.run w).2) := by
  simp only [Endpoint.run, Handler.claims, claims, Handler.check, Handler.param, read, pure_bind, publishes]
  cases asked with
  | none =>
    cases named
    exact Handler.call_bind_pure_run _ _ w
  | some raw =>
    by_cases empty : raw = ""
    · subst empty
      cases named
      exact Handler.call_bind_pure_run _ _ w
    · simp only [askedStatus?, empty, if_false] at named
      split
      · contradiction
      · rename_i same
        cases same
        exact absurd rfl empty
      · rename_i same
        cases same
        simp only [named]
        exact Handler.call_bind_pure_run _ _ w

end Endpoint

/-! The router. -/

private theorem routes_health : ∀ entry ∈ routes, ∀ answered ∈ entry.2, answered.2 = .health →
    entry.1 = "/health" := by
  decide

theorem route_health {method path : String} (routed : route method path = .endpoint .health) :
    path = "/health" := by
  unfold route at routed
  split at routed
  · cases routed
  · rename_i entryPath methods found
    have named : entryPath = path := by simpa using List.find?_some found
    generalize (if method == "HEAD" then "GET" else method) = asked at routed
    dsimp only at routed
    split at routed
    · rename_i answered endpoint picked
      cases routed
      exact named ▸ routes_health _ (List.mem_of_find?_eq_some found) _
        (List.mem_of_find?_eq_some picked) rfl
    · cases routed

namespace Interface
variable (i : Interface) {r : Request} {w w' : World} {e : Endpoint}

theorem dispatch_of_failed (routed : route r.method r.path = .endpoint e) {err : HandlerError}
    (failed : (e.run i.version r).run.run w = (.error err, w')) : (i.dispatch r).run w = (err.response, w') := by
  simp only [dispatch, routed, StateT.run_bind, failed]
  rfl

end Interface

/-! Service errors. -/

def documentedStatus : String → Nat
  | "NotFound" => 404
  | "InvalidState" | "Validation" => 400
  | "Conflict" => 409
  | "Timeout" => 504
  | _ => 500

theorem serviceStatus_eq_documented (e : ServiceError) : serviceStatus e = documentedStatus e.kind := by
  cases e <;> rfl

def exposedMessage (e : ServiceError) : String :=
  if serviceStatus e < 500 then e.message
  else if serviceStatus e = 504 then "request timed out" else "internal server error"

theorem response_of_service (e : ServiceError) :
    (HandlerError.service e).response = Response.error (serviceStatus e) (exposedMessage e) := by
  cases e <;> rfl

theorem exposedMessage_of_server_error {e e' : ServiceError} (server : 500 ≤ serviceStatus e)
    (same : e.kind = e'.kind) : exposedMessage e = exposedMessage e' := by
  have statuses : serviceStatus e = serviceStatus e' := by
    rw [serviceStatus_eq_documented, serviceStatus_eq_documented, same]
  unfold exposedMessage
  rw [← statuses, if_neg (Nat.not_lt.mpr server), if_neg (Nat.not_lt.mpr server)]

/-! The interface as a whole. -/

/-- What the interface `i` does with every request, from the outside in. -/
structure AccessLaws (i : Interface) : Prop where
  unreadable : ∀ (r : Request) w, r.hasValidTarget = false → (i.respond r).run w = (⟨400, [], .empty⟩, w)
  preflight : ∀ (r : Request) w, r.hasValidTarget = true → r.isPreflight = true →
    (i.respond r).run w = (preflightResponse, w)
  exempt : ∀ (r : Request) w, r.hasValidTarget = true → r.isPreflight = false →
    (i.apiKey = none ∨ r.path = "/health") →
    (i.respond r).run w = (r.dress ((i.dispatch r).run w).1, ((i.dispatch r).run w).2)
  admitted : ∀ K (r : Request) w, i.apiKey = some K → r.path ≠ "/health" → r.hasValidTarget = true →
    r.isPreflight = false → r.presentedKey? = some K →
    (i.respond r).run w = (r.dress ((i.dispatch r).run w).1, ((i.dispatch r).run w).2)
  wrongKey : ∀ K k (r : Request) w, i.apiKey = some K → r.path ≠ "/health" → r.hasValidTarget = true →
    r.isPreflight = false → r.presentedKey? = some k → k ≠ K →
    (i.respond r).run w = (r.dress (Response.error 403 "invalid API key"), w)
  noKey : ∀ K (r : Request) w, i.apiKey = some K → r.path ≠ "/health" → r.hasValidTarget = true →
    r.isPreflight = false → r.presentedKey? = none →
    (i.respond r).run w = (r.dress (Response.error 401 "authentication required"), w)
  bearer : ∀ (r : Request) k, r.headerText? "authorization" = some ("Bearer " ++ k) → r.presentedKey? = some k
  fallback : ∀ r : Request, (∀ k, r.headerText? "authorization" ≠ some ("Bearer " ++ k)) →
    r.presentedKey? = r.headerText? "x-api-key"
  userClaim : ∀ (r : Request) e w, route r.method r.path = .endpoint e → r.path ≠ "/health" →
    (∀ v, r.headerText? "x-user-id" = some v → readSigned64? (Text.trim v) = none) →
    (i.dispatch r).run w = (Response.error 401 "missing or invalid user claim", w)
  doubledQuery : ∀ (r : Request) e name c qe w, route r.method r.path = .endpoint e →
    e.publisherParameter? = some name → Claims.ofRequest r = .ok c → queryParam r.query? name = .error qe →
    (i.dispatch r).run w = ((HandlerError.query qe).response, w)
  publisherClaims : ∀ (r : Request) e name c asked w, route r.method r.path = .endpoint e →
    e.publisherParameter? = some name → Claims.ofRequest r = .ok c → queryParam r.query? name = .ok asked →
    (∀ ws, ¬ r.PublishesFor ws) → ∃ m, (i.dispatch r).run w = (Response.error 401 m, w)
  accept : ∀ (r : Request) c ws n w, Claims.ofRequest r = .ok c → r.PublishesFor ws →
    queryParam r.query? "node_id" = .ok (some n) → Text.isBlankText n = false →
    (Endpoint.acceptProposal.run i.version r).run.run w =
      ((((Service.acceptProposal ws.id n).exec.run w).1.map fun p => (200, p.toJson)).mapError .service,
        ((Service.acceptProposal ws.id n).exec.run w).2)
  reject : ∀ (r : Request) c ws n w, Claims.ofRequest r = .ok c → r.PublishesFor ws →
    queryParam r.query? "node_id" = .ok (some n) → Text.isBlankText n = false →
    (Endpoint.rejectProposal.run i.version r).run.run w =
      ((((Service.rejectProposal ws.id n).exec.run w).1.map fun p => (200, p.toJson)).mapError .service,
        ((Service.rejectProposal ws.id n).exec.run w).2)
  listing : ∀ (r : Request) c ws asked st w, Claims.ofRequest r = .ok c → r.PublishesFor ws →
    queryParam r.query? "status" = .ok asked → askedStatus? asked = some st →
    (Endpoint.listSubmissions.run i.version r).run.run w =
      ((((Service.proposalsForWorkspace ws.nodeId st).exec.run w).1.map
          fun l => (200, Service.submissionsJson l)).mapError .service,
        ((Service.proposalsForWorkspace ws.nodeId st).exec.run w).2)
  statuses : ∀ err : ServiceError, serviceStatus err = documentedStatus err.kind
  serviceError : ∀ (r : Request) e err w w', route r.method r.path = .endpoint e →
    (e.run i.version r).run.run w = (.error (.service err), w') →
    (i.dispatch r).run w = (Response.error (serviceStatus err) (exposedMessage err), w')
  hidden : ∀ err err' : ServiceError, 500 ≤ serviceStatus err → err.kind = err'.kind →
    (HandlerError.service err).response = (HandlerError.service err').response

/-- The HTTP interface, for every request and every world: an unreadable target is refused and
a preflight answered before the API key is asked for; with a key set, a request to any path but
`/health` is routed exactly when it presents the key, as a bearer token or else as `X-API-Key`,
and is refused with 403 for a wrong key and 401 for none; every route but `/health` answers 401,
calling nothing, without a signed 64-bit `X-User-Id`; a team's route refuses a doubled query
parameter with 400 and then, with 401, a caller without a publisher's claims, before looking at
its parameter; acceptance and rejection act on the repository `X-Organization-Id` names and the
listing on the workspace `X-Organization-Node-Id` names; and a failed service call answers the
documented status of its error's kind, with its message only when the caller can act on it. -/
theorem interface_guards_requests (i : Interface) : AccessLaws i where
  unreadable _ _ unreadable := i.respond_unreadable unreadable
  preflight _ _ valid preflight := i.respond_preflight valid preflight
  exempt _ _ valid ordinary exempt := i.respond_admitted valid ordinary (i.keyRefusal?_open exempt)
  admitted _ _ _ keyed guarded valid ordinary presented :=
    i.respond_admitted valid ordinary ((Interface.keyRefusal?_eq_none_iff keyed guarded).mpr presented)
  wrongKey _ _ _ _ keyed guarded valid ordinary presented wrong :=
    i.respond_refused valid ordinary (Interface.keyRefusal?_of_wrong keyed guarded presented wrong)
  noKey _ _ _ keyed guarded valid ordinary missing :=
    i.respond_refused valid ordinary (Interface.keyRefusal?_of_missing keyed guarded missing)
  bearer _ _ given := Request.presentedKey?_of_bearer given
  fallback _ other := Request.presentedKey?_of_not_bearer other
  userClaim _ _ _ routed guarded unreadable :=
    i.dispatch_of_failed routed (Endpoint.run_of_claims_refused
      (fun health => guarded (route_health (health ▸ routed))) (Claims.ofRequest_of_unreadable unreadable))
  doubledQuery _ _ _ _ _ _ routed publisher claims doubled :=
    i.dispatch_of_failed routed (Endpoint.run_of_query_refused publisher claims doubled)
  publisherClaims _ _ _ c _ _ routed publisher claims read foreign := by
    -- a caller publishing for no workspace is refused its workspace, and only for want of an identity
    cases refused : c.publishingWorkspace with
    | ok ws => exact absurd ((Claims.publishingWorkspace_eq_ok_iff_publishesFor claims).mp refused) (foreign ws)
    | error ref =>
      obtain ⟨m, rfl⟩ := Claims.publishingWorkspace_refusal refused
      exact ⟨m, i.dispatch_of_failed routed (Endpoint.run_of_workspace_refused publisher claims read refused)⟩
  accept _ _ _ _ _ claims publishes asked given :=
    Endpoint.verdict_run rfl claims ((Claims.publishingWorkspace_eq_ok_iff_publishesFor claims).mpr publishes)
      asked given
  reject _ _ _ _ _ claims publishes asked given :=
    Endpoint.verdict_run rfl claims ((Claims.publishingWorkspace_eq_ok_iff_publishesFor claims).mpr publishes)
      asked given
  listing _ _ _ _ _ _ claims publishes read named :=
    Endpoint.listSubmissions_run claims ((Claims.publishingWorkspace_eq_ok_iff_publishesFor claims).mpr publishes)
      read named
  statuses := serviceStatus_eq_documented
  serviceError _ _ err _ _ routed failed := by
    rw [i.dispatch_of_failed routed failed, response_of_service]
  hidden err err' server same := by
    have statuses : serviceStatus err = serviceStatus err' := by
      rw [serviceStatus_eq_documented, serviceStatus_eq_documented, same]
    rw [response_of_service, response_of_service, statuses, exposedMessage_of_server_error server same]

def preflightProbe : Request := ⟨"OPTIONS", "/publishing/info", [], .text ""⟩

def doubledAcceptance : Request :=
  ⟨"POST", "/publishing/submission/accept?node_id=a&node_id=b", [("X-API-Key", "k"), ("X-User-Id", "42")],
    .text ""⟩

def accentedBearer : Request :=
  ⟨"GET", "/publishing/info", [("Authorization", "Bearer é"), ("X-User-Id", "42")], .text ""⟩

private theorem doubledAcceptance_query :
    queryParam doubledAcceptance.query? "node_id" = .error (.duplicateField "node_id") := by
  have bytes : "node_id=a&node_id=b".toUTF8.toList =
      [110, 111, 100, 101, 95, 105, 100, 61, 97, 38, 110, 111, 100, 101, 95, 105, 100, 61, 98] := by
    decide +kernel
  have query : doubledAcceptance.query? = some "node_id=a&node_id=b" := by decide +kernel
  simp only [query, queryParam, Option.getD_some, formPairs, bytes]
  simp [splitBytes, splitFirst, decodeComponent, plusToSpace, percentDecode, decodeUtf8Lossy]

/-- Three requests the key and claim checks do not refuse as documented. Behind the key `k`, a
preflight presenting no key is answered with 200, and an acceptance naming `node_id` twice by a
caller without a publisher's claims with 400. Behind the key `é`, a request whose
`Authorization` header is `Bearer é` is refused for presenting no key, since a value outside
visible ASCII is no header text. -/
theorem preflight_doubled_query_and_accented_bearer_pass_the_checks :
    ((⟨some "k", "0.1.0"⟩ : Interface).respond preflightProbe).run default = (preflightResponse, default) ∧
      (((⟨some "k", "0.1.0"⟩ : Interface).respond doubledAcceptance).run default).1.status = 400 ∧
      accentedBearer.header? "authorization" = some "Bearer é" ∧
      ((⟨some "é", "0.1.0"⟩ : Interface).respond accentedBearer).run default =
        (accentedBearer.dress (Response.error 401 "authentication required"), default) := by
  refine ⟨Interface.respond_preflight _ (by decide +kernel) (by decide +kernel), ?_, ?_, ?_⟩
  · -- the key passes, the claims are read, and the doubled parameter ends the acceptance
    have noBearer : doubledAcceptance.headerText? "authorization" = none := by
      simp [doubledAcceptance, Request.headerText?, Request.header?,
        sameName_of_foldAscii_ne "X-API-Key" "authorization"
          (by simp [Status.foldAscii, String.map_eq_internal]),
        sameName_of_foldAscii_ne "X-User-Id" "authorization"
          (by simp [Status.foldAscii, String.map_eq_internal])]
    have keyHeader : doubledAcceptance.headerText? "x-api-key" = some "k" := by
      simp [doubledAcceptance, Request.headerText?, Request.header?, fieldValue, isFieldBlank, isFieldText,
        String.all_bool_eq,
        sameName_of_foldAscii_eq "X-API-Key" "x-api-key"
          (by simp [Status.foldAscii, String.map_eq_internal])]
    have userHeader : doubledAcceptance.headerText? "x-user-id" = some "42" := by
      simp [doubledAcceptance, Request.headerText?, Request.header?, fieldValue, isFieldBlank, isFieldText,
        String.all_bool_eq,
        sameName_of_foldAscii_ne "X-API-Key" "x-user-id"
          (by simp [Status.foldAscii, String.map_eq_internal]),
        sameName_of_foldAscii_eq "X-User-Id" "x-user-id" (by simp [Status.foldAscii, String.map_eq_internal])]
    have presented : doubledAcceptance.presentedKey? = some "k" := by
      rw [Request.presentedKey?_of_not_bearer (by simp [noBearer]), keyHeader]
    have read : readSigned64? (Text.trim "42") = some 42 := by
      simp [Text.trim, Text.isBlank, readSigned64?, Text.readInteger, Text.magnitude, Except.map]
    obtain ⟨c, claims, -⟩ := Claims.ofRequest_of_readable userHeader read
    have admitted : (⟨some "k", "0.1.0"⟩ : Interface).keyRefusal? doubledAcceptance = none :=
      (Interface.keyRefusal?_eq_none_iff rfl (by decide +kernel)).mpr presented
    have routed : route doubledAcceptance.method doubledAcceptance.path = .endpoint .acceptProposal := by
      decide +kernel
    rw [Interface.respond_admitted _ (by decide +kernel) (by decide +kernel) admitted, Request.dress_status,
      Interface.dispatch_of_failed _ routed (Endpoint.run_of_query_refused rfl claims doubledAcceptance_query)]
    rfl
  · simp [accentedBearer, Request.header?, fieldValue, isFieldBlank,
      sameName_of_foldAscii_eq "Authorization" "authorization"
        (by simp [Status.foldAscii, String.map_eq_internal])]
  · have noBearer : accentedBearer.headerText? "authorization" = none := by
      simp [accentedBearer, Request.headerText?, Request.header?, fieldValue, isFieldBlank, isFieldText,
        String.all_bool_eq,
        sameName_of_foldAscii_eq "Authorization" "authorization"
          (by simp [Status.foldAscii, String.map_eq_internal])]
    have noKeyHeader : accentedBearer.headerText? "x-api-key" = none := by
      simp [accentedBearer, Request.headerText?, Request.header?,
        sameName_of_foldAscii_ne "Authorization" "x-api-key"
          (by simp [Status.foldAscii, String.map_eq_internal]),
        sameName_of_foldAscii_ne "X-User-Id" "x-api-key" (by simp [Status.foldAscii, String.map_eq_internal])]
    have missing : accentedBearer.presentedKey? = none := by
      rw [Request.presentedKey?_of_not_bearer (by simp [noBearer]), noKeyHeader]
    exact Interface.respond_refused _ (by decide +kernel) (by decide +kernel)
      (Interface.keyRefusal?_of_missing rfl (by decide +kernel) missing)

end Http
end DatasetProposals
