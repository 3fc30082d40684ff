import DatasetProposals.Bench.Setup
import DatasetProposals.Proposal.Lifecycle
/-! Requests answered by a single function: template rendering, attributes, recipients,
signed URLs, statuses and transitions, events, provisioning steps, display names, record
decoding and composing one email. -/
namespace DatasetProposals
namespace Bench
open Json

def textMap (j : Json) (name : String) : Except Failure (List (String × String)) :=
  match j.get name with
  | .obj fields => fields.mapM fun (k, v) =>
    match v with
    | .str s => .ok (k, s)
    | _ => .error (.badInput ("field " ++ name))
  | _ => .error (.badInput ("field " ++ name))

def textPair : Decoder (String × String) := fun d => do
  let items ← Decoder.list Decoder.any d
  match items with
  | [.str a, .str b] => return (a, b)
  | _ => Decoder.mismatch "a tuple of size 2" d

def transitionJson (t : Transition) : Json :=
  .obj [("from", .str t.source.name), ("to", .str t.target.name), ("operation", .str t.operation),
    ("display", .str t.display)]

def needTransition (j : Json) : Except Failure Transition := do
  match Transition.ofName? (← need j "name" Decoder.string) with
  | some t => return t
  | none => throw (.badInput "transition")

def needEvent (j : Json) (name : String) : Except Failure Event := do
  match Event.ofName? (← need j name Decoder.string) with
  | some e => return e
  | none => throw (.badInput "event")

def attributesReport (a : Attributes) (names : List String) : Json :=
  .obj [("len", .int a.size), ("is_empty", .bool (a.size == 0)),
    ("pairs", .arr (a.pairs.map fun (k, v) => .arr [.str k, .str v])),
    ("get", .arr (names.map fun n => match a.get? n with
      | some v => .str v
      | none => .null)),
    ("display", .str a.display),
    ("json", .obj (a.pairs.map fun (k, v) => (k, .str v)))]

def reencode (kind : String) (value : Json) : Outcome := do
  let read {α : Type} (d : Decoder α) : Except Failure α := reading "field value" d value
  match kind with
  | "proposal" =>
    let p ← read Proposal.decoder
    return .obj [("record", p.toJson), ("key", p.key.toJson)]
  | "repository" => return (← read RepositoryRecord.decoder).toJson
  | "question" => return (← read QuestionRecord.decoder).toJson
  | "info" => return (← read InfoRecord.decoder).toJson
  | _ => throw (.badInput "kind")

def notifyOnce (j : Json) : Outcome := do
  let e ← needEvent j "event"
  let attrs ← textMap j "attributes"
  let recipients ← need j "recipients" (Decoder.list Decoder.string)
  let given ← givenTemplateTexts j
  let failing ← orDefault j "fail_send" Decoder.bool false
  let sender ← orDefault j "from" Decoder.string "publishing@example.org"
  let source ← match given with
    | none => pure TemplateSource.builtin
    | some pairs => TemplateSource.given <$> eventTemplates pairs
  match composeEmail source sender e (Attributes.ofList attrs) recipients with
  | .error err => throw (.notify err)
  | .ok m =>
    if failing then throw (.notify (.send "memory" "configured to fail"))
    return .obj [("emails", .arr [m.toJson])]

def pureOp (op : String) (j : Json) : Option Outcome :=
  let text (name : String) := need j name Decoder.string
  let int (name : String) := need j name Decoder.int64
  match op with
  | "render" => some do
    let template ← text "template"
    let attrs ← textMap j "attributes"
    return .str (render template (Attributes.ofList attrs))
  | "attributes_display" => some do
    return .str (Attributes.ofList (← textMap j "attributes")).display
  | "normalize_recipients" => some do
    let addresses ← need j "addresses" (Decoder.list Decoder.string)
    return .arr ((normalizeRecipients addresses).map .str)
  | "missing_questions" => some do
    let required ← need j "required" (Decoder.list Decoder.int64)
    let answered ← need j "answered" (Decoder.list Decoder.int64)
    return .arr ((missingQuestions required answered).map .int)
  | "presign" => some do
    let signer := UrlSigner.make (← text "base_url") (← text "secret")
    let bucket ← text "bucket"
    let key ← text "key"
    let lifetime ← need j "expires_in" Decoder.uint64
    let now ← int "now"
    return .str (signer.presign bucket key lifetime now)
  | "signature" => some do
    let signer := UrlSigner.make "" (← text "secret")
    return .str (signer.signature (← text "bucket") (← text "key") (← int "expires"))
  | "verify" => some do
    let signer := UrlSigner.make "" (← text "secret")
    let bucket ← text "bucket"
    let key ← text "key"
    let expires ← int "expires"
    let sig ← text "signature"
    let now ← int "now"
    return .bool (signer.verify bucket key expires sig now)
  | "parse_status" => some do
    let s ← needStatus j "s"
    return .obj [("status", .str s.name), ("display", .str s.name)]
  | "transition" => some do return transitionJson (← needTransition j)
  | "transition_between" => some do
    let a ← needStatus j "from"
    let b ← needStatus j "to"
    return match Transition.between a b with
      | some t => transitionJson t
      | none => .null
  | "transition_apply" => some do
    let t ← needTransition j
    let p ← need j "record" Proposal.decoder
    let now ← int "now"
    return (t.apply p now).toJson
  | "event" => some do
    let e ← needEvent j "name"
    return .obj [("subject", .str e.subject), ("name", .str e.name)]
  | "provision_steps" => some (.ok (.arr (ProvisionStep.order.map fun s => .str s.name)))
  | "display_name" => some do return .str (displayName (← text "first_name") (← text "last_name"))
  | "parse_dto" => some do
    let d ← need j "value" ProposalDto.decoder
    return .obj [("dto", d.toJson), ("key", d.key.toJson)]
  | "parse_record" => some do reencode (← text "kind") (j.get "value")
  | "attributes" => some do
    let inserts ← need j "inserts" (Decoder.list textPair)
    let names ← orDefault j "get" (Decoder.list Decoder.string) []
    return attributesReport (Attributes.ofList inserts) names
  | "notify" => some (notifyOnce j)
  | _ => none

end Bench
end DatasetProposals
