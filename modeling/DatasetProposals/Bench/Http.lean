import DatasetProposals.Bench.Command
import DatasetProposals.Bench.Scenario
import DatasetProposals.Http.Server
import DatasetProposals.Http.Wire
/-! The `http` request: start the server from a command line built off the request, send it the
requests one after another, and answer each response with what the relay and databases saw. -/
namespace DatasetProposals
namespace Bench
open Json

def listenAddress : String := "127.0.0.1:18080"

def relayAddress (closed : Bool) : String :=
  if closed then "http://127.0.0.1:18082/send" else "http://127.0.0.1:18081/send"

def relaySpec (j : Json) : Except Failure (Option Bool) := do
  match j.field? "relay" with
  | none => return none
  | some r =>
    let closed := match r.get "closed" with
      | .bool b => b
      | _ => false
    if !closed then
      let _ ← orDefault r "status" (Decoder.intIn "u16" 0 65535) 200
    return some closed

def serverArgs (seeded bare : Bool) (documents : Option DocumentSpec)
    (relational : Option RelationalSpec) (relay : Option Bool) (args : List String) : List String :=
  let seed := if seeded then ["--seed", "seed.json"] else []
  let documentFlags := match documents with
    | some d => ["--document-store", "mongo", "--mongodb-uri",
        "mongodb://scratch%2Fmongo.sock/?serverSelectionTimeoutMS=2000&connectTimeoutMS=2000",
        "--mongodb-db", d.database]
    | none => ["--document-store", "memory"]
  let relationalFlags := match relational with
    | some r => ["--relational-store", "postgres", "--database-url",
        "postgres://publishing@localhost/pennsieve?host=scratch&sslmode=disable",
        "--publishing-organization-id", Text.intText r.organizationId]
    | none => ["--relational-store", "memory"]
  let mailFlags := match relay with
    | some closed => ["--email-transport", "relay", "--email-relay-url", relayAddress closed]
    | none => ["--email-transport", "log"]
  let backends := if bare then []
    else documentFlags ++ relationalFlags ++
      ["--url-signing-secret", "s3cr3t", "--file-base-url", "https://files.example.org"] ++ mailFlags
  ["serve", "--listen", listenAddress] ++ seed ++ backends ++ args

def sentText (j : Json) : String := Json.render j

def seedText : Json → String
  | .str s => s
  | j => sentText j

def seedDocuments : Json → SeedData
  | .str _ => SeedData.empty
  | j =>
    match Seed.decoder.ofText (sentText j) with
    | .ok s => s.documents
    | .error _ => SeedData.empty

def maskAddress : Cli.ErrLine → Cli.ErrLine
  | .text s => .text (IdBook.replaceAll s listenAddress "127.0.0.1:PORT")
  | .event s => .event (IdBook.replaceAll s listenAddress "127.0.0.1:PORT")
  | l => l

/-! Requests. -/

def headerPair (j : Json) : Except Failure Http.Header :=
  match j with
  | .arr [.str n, .str v] => .ok (n, v)
  | _ => .error (.badInput "field headers")

def repeatLimit : Int := 4000000

/-- What a client sends: the head of a request as bytes, and its body as text. -/
structure Sent where
  head : List UInt8
  body : String

def readRequest (j : Json) : Except Failure Sent := do
  let method ← need j "method" Decoder.string
  let path ← need j "path" Decoder.string
  let headers ← match j.get "headers" with
    | .null => pure []
    | .arr hs => hs.mapM headerPair
    | _ => throw (.badInput "field headers")
  let repeated ← match j.get "body_repeat" with
    | .null => pure none
    | .arr [.str t, .int n] =>
      if n < 0 || n ≥ 18446744073709551616 then throw (.badInput "field body_repeat")
      else if n > repeatLimit then throw (.badInput "body_repeat")
      else pure (some (String.join (List.replicate n.toNat t)))
    | _ => throw (.badInput "field body_repeat")
  let contentType ← maybe j "content_type" Decoder.string
  let (body, typed) ← match j.get "body" with
    | .null => pure (none, contentType)
    | .str s => pure (some s, contentType)
    | b => pure (some (sentText b), contentType.orElse fun _ => some "application/json")
  let text := body.getD "" ++ repeated.getD ""
  let typeHeader := match typed with
    | some t => if headers.any (Status.foldAscii ·.1 == "content-type") then [] else [("Content-Type", t)]
    | none => []
  let lengthHeader := if body.isSome || repeated.isSome || method != "GET" then
      [("Content-Length", toString text.utf8ByteSize)]
    else []
  let lines := [("Host", listenAddress)] ++ typeHeader ++ headers ++ lengthHeader ++ [("Connection", "close")]
  let head := method ++ " " ++ path ++ " HTTP/1.1\r\n" ++
    String.join (lines.map fun (n, v) => n ++ ": " ++ v ++ "\r\n") ++ "\r\n"
  return ⟨Http.textBytes head, text⟩

/-! Answers. -/

def shownHeader (name : String) : Bool :=
  name == "content-type" || name == "vary" || name.startsWith "access-control-"

def payloadJson : Http.Payload → Json
  | .empty => .null
  | .json j => j
  | .text s =>
    match Doc.ofText s with
    | (doc, none) => (doc.toJson?).getD (.str s)
    | _ => .str s

def relayedPost (token : Option String) (m : Email) : Json :=
  let auth := match token with
    | some t => [("authorization", Json.str ("Bearer " ++ t))]
    | none => []
  .obj [("method", .str "POST"), ("path", .str "/send"),
    ("headers", .obj ([("content-type", .str "application/json; charset=utf-8")] ++ auth)),
    ("body", m.toJson)]

def relayToken : Transport → Option String
  | .relay token _ => token
  | _ => none

def responseJson (w : World) (r : Http.Response) : Json :=
  let headers := (r.headers.map fun (n, v) => (Status.foldAscii n, v)).filter (shownHeader ·.1)
  let base := [("status", Json.int r.status), ("headers", Json.obj (headers.map fun (n, v) => (n, Json.str v))),
    ("body", payloadJson r.payload)]
  let relayed := match w.mailer.sent with
    | [] => []
    | sent => [("relayed", Json.arr (sent.map (relayedPost (relayToken w.mailer.transport))))]
  let sql := match (w.relational.map (·.server.log)).getD [] with
    | [] => []
    | log => [("sql", Json.arr (log.map fun (text, bound) =>
        Json.obj [("sql", Json.str text), ("params", Json.arr (bound.map Sql.Param.toJson))]))]
  let mongo := match (w.documents.map (·.log)).getD [] with
    | [] => []
    | log => [("mongo", Json.arr log)]
  .obj (base ++ relayed ++ sql ++ mongo)

/-! Normalising answers. -/

def timeMembers : List String := ["CreatedAt", "UpdatedAt", "SubmittedAt", "WithdrawnAt", "AcceptedAt", "RejectedAt"]

mutual
def flattenTimes : Json → Json
  | .arr xs => .arr (flattenTimesItems xs)
  | .obj fs => .obj (flattenTimesFields fs)
  | j => j

def flattenTimesItems : List Json → List Json
  | [] => []
  | x :: xs => flattenTimes x :: flattenTimesItems xs

def flattenTimesFields : List (String × Json) → List (String × Json)
  | [] => []
  | (k, v) :: rest =>
    let v := match v with
      | .int n => if timeMembers.contains k && n != 0 then Json.int 1 else v
      | _ => flattenTimes v
    (k, v) :: flattenTimesFields rest
end

def isBase64UrlChar (c : Char) : Bool := c.isAlphanum || c == '-' || c == '_'

def afterSignedParameters (cs : List Char) : Option (List Char) :=
  let expires := "expires=".toList
  let marker := "&signature=".toList
  if !(expires.isPrefixOf cs) then none else
  let rest := cs.drop expires.length
  let (signed, rest) := match rest with
    | '-' :: r => (true, r)
    | r => (false, r)
  let digits := rest.takeWhile Char.isDigit
  let rest := rest.drop digits.length
  if (!signed && digits.isEmpty) || !(marker.isPrefixOf rest) then none
  else
    let after := rest.drop marker.length
    some (after.drop (after.takeWhile isBase64UrlChar).length)

def maskSignedChars : Nat → List Char → List Char
  | 0, cs => cs
  | _ + 1, [] => []
  | fuel + 1, c :: rest =>
    match afterSignedParameters (c :: rest) with
    | some after => "expires=*&signature=*".toList ++ maskSignedChars fuel after
    | none => c :: maskSignedChars fuel rest

def maskSignedText (s : String) : String :=
  String.ofList (maskSignedChars s.length s.toList)

mutual
def maskSigned : Json → Json
  | .str s => .str (maskSignedText s)
  | .arr xs => .arr (maskSignedItems xs)
  | .obj fs => .obj (maskSignedFields fs)
  | j => j

def maskSignedItems : List Json → List Json
  | [] => []
  | x :: xs => maskSigned x :: maskSignedItems xs

def maskSignedFields : List (String × Json) → List (String × Json)
  | [] => []
  | (k, v) :: rest => (k, maskSigned v) :: maskSignedFields rest
end

def isProposalDocument (j : Json) : Bool := j.has "ProposalNodeId"

def sortListingBody : Json → Json
  | .arr xs => if xs.all isProposalDocument then sortProposals (.arr xs) else .arr xs
  | .obj fs => .obj (fs.map fun (k, v) => if k == "Proposals" then (k, sortProposals v) else (k, v))
  | j => j

def sortListing : Json → Json
  | .obj fs => .obj (fs.map fun (k, v) => if k == "body" then (k, sortListingBody v) else (k, v))
  | j => j

/-! Running. -/

/-- What a run of requests has done so far. -/
structure Exchange where
  world : World
  book : IdBook
  answers : List Json

def Exchange.send (i : Http.Interface) (x : Exchange) (j : Json) : Exchange :=
  match readRequest (IdBook.restore x.book j) with
  | .error f => { x with answers := x.answers ++ [f.toJson false] }
  | .ok sent =>
    let w := { x.world with mailer := { x.world.mailer with sent := [] },
                            relational := x.world.relational.map fun d => { d with server := { d.server with log := [] } },
                            documents := x.world.documents.map fun s => { s with log := [] } }
    let (response, w) := match Http.receive true sent.head sent.body with
      | .complete request => (i.respond request).run w
      | .refused status => (Http.refusal status, w)
      | .incomplete => (Http.refusal 400, w)
    let (answer, book) := IdBook.rewrite x.book (responseJson w response).canonical
    ⟨w, book, x.answers ++ [sortListing (maskSigned (flattenTimes answer))]⟩

def serverClock : Int := 1700000000

def runHttp (j : Json) : Outcome := do
  let files ← requestFiles j
  let bare ← orDefault j "bare" Decoder.bool false
  let args ← orDefault j "args" (Decoder.list Decoder.string) []
  let requests ← need j "requests" (Decoder.list Decoder.any)
  let relay ← relaySpec j
  let documents ← if bare then pure none else (j.field? "mongo").mapM documentSpec
  let relational ← if bare then pure none else (j.field? "postgres").mapM serverRelationalSpec
  let seed := j.field? "seed"
  let env ← textObject j "env"
  let files := match seed with
    | some s => files.write scratchDirectory "seed.json" (seedText s)
    | none => files
  let inv : Cli.Invocation :=
    ⟨serverArgs seed.isSome bare documents relational relay args, Cli.Environment.ofGiven env,
      files, scratchDirectory⟩
  if !startable inv.args env then throw (.badInput "spawn")
  let reach : Cli.Reachable :=
    ⟨documents.map (·.server ((seed.map seedDocuments).getD SeedData.empty)),
     relational.bind fun r => if r.startupError.isSome then none else some ⟨r.rules, []⟩,
     relay == some false⟩
  match Cli.run inv reach serverClock with
  | .exited e =>
    return .obj [("started", .bool false), ("status", .int e.status),
      ("stderr", .arr (errLines (e.stderr.map maskAddress)))]
  | .serving server _ =>
    let iface : Http.Interface := ⟨server.apiKey, Cli.programVersion⟩
    let done := requests.foldl (Exchange.send iface) ⟨{ server.world with reserved := j.texts }, IdBook.empty, []⟩
    return .obj [("started", .bool true), ("responses", .arr done.answers), ("exit", .int 0)]

end Bench
end DatasetProposals
