import DatasetProposals.Notify.Builtin
import DatasetProposals.Notify.Recipients
import DatasetProposals.FileTree
import DatasetProposals.Json.Value
/-! Composing the email for an event: check that there are recipients, load the event's
template from its source, and render it with the attributes. Sending is the transport's work. -/
namespace DatasetProposals

/-- A rendered email. -/
structure Email where
  sender : String
  recipients : List String
  subject : String
  body : String
  format : String
  deriving Repr, BEq, Inhabited

/-- Where each event's template file lives in a template directory: `bucket/key`. -/
structure TemplateKeys where
  bucket : String
  submitted : String
  withdrawn : String
  accepted : String
  rejected : String
  deriving Repr, Inhabited

def TemplateKeys.key (k : TemplateKeys) : Event → String
  | .submitted => k.submitted
  | .withdrawn => k.withdrawn
  | .accepted => k.accepted
  | .rejected => k.rejected

/-- Where templates come from. -/
inductive TemplateSource where
  | builtin
  | given (templates : List (Event × String))
  | files (tree : FileTree) (root : String) (keys : TemplateKeys)
  deriving Repr, Inhabited

/-- Why an email could not be composed or sent. -/
inductive NotifyError where
  | templateNotFound (bucket key : String)
  | templateRead (bucket key message : String)
  | noRecipients (event : String)
  | send (transport message : String)
  deriving Repr, BEq, Inhabited

namespace NotifyError

def message : NotifyError → String
  | .templateNotFound b k => "email template not found: " ++ b ++ "/" ++ k
  | .templateRead b k m => "failed to read email template " ++ b ++ "/" ++ k ++ ": " ++ m
  | .noRecipients e => "no recipients for " ++ e ++ " notification"
  | .send t m => "failed to send email via " ++ t ++ ": " ++ m

def kind : NotifyError → String
  | .templateNotFound .. => "TemplateNotFound"
  | .templateRead .. => "TemplateRead"
  | .noRecipients _ => "NoRecipients"
  | .send .. => "Send"

end NotifyError

def joinPath (base rel : String) : String :=
  if rel.startsWith "/" then rel else base ++ "/" ++ rel

namespace TemplateSource

def load (s : TemplateSource) (e : Event) : Except NotifyError String :=
  match s with
  | .builtin => .ok e.builtinTemplate
  | .given ts =>
    match ts.find? (·.1 == e) with
    | some (_, t) => .ok t
    | none => .error (.templateNotFound "builtin" e.name)
  | .files tree root keys =>
    let key := keys.key e
    match tree.read [] (joinPath (joinPath root keys.bucket) key) with
    | .ok t => .ok t
    | .error .notFound => .error (.templateNotFound keys.bucket key)
    | .error f => .error (.templateRead keys.bucket key f.message)

end TemplateSource

def composeEmail (source : TemplateSource) (sender : String) (e : Event) (attrs : Attributes)
    (recipients : List String) : Except NotifyError Email := do
  if recipients.isEmpty then throw (.noRecipients e.name)
  let template ← source.load e
  return ⟨sender, recipients, e.subject, render template attrs, "html"⟩

def Email.toJson (m : Email) : Json :=
  .obj [("from", .str m.sender), ("to", .arr (m.recipients.map .str)), ("subject", .str m.subject),
    ("body", .str m.body), ("format", .str m.format)]

end DatasetProposals
