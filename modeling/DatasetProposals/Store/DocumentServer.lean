import DatasetProposals.Store.Database
/-! The scripted document database that the test protocol stands in for a real one: collections
in insertion order, unique indexes, and faults that make chosen commands fail. -/
namespace DatasetProposals
open Json

/-- A scripted fault. -/
structure ServerFault where
  command : String
  collection : Option String
  skip : Nat
  times : Option Nat
  failure : Option CommandFailure
  deriving Repr, Inhabited

/-- A stored document: its hidden identity and its members. -/
structure StoredDocument where
  identity : Nat
  members : List (String × Json)
  deriving Repr, Inhabited

/-- The server's database name, collections, indexes, faults, call counts and command log. -/
structure DocumentServer where
  database : String
  collections : List (String × List StoredDocument)
  indexes : List (String × Index)
  faults : List ServerFault
  calls : List (String × Nat)
  log : List Json
  issued : Nat
  deriving Repr, Inhabited

namespace DocumentServer

def empty : DocumentServer := ⟨"publishing", [], [], [], [], [], 0⟩

def documents (s : DocumentServer) (collection : String) : List StoredDocument :=
  ((s.collections.find? (·.1 == collection)).map (·.2)).getD []

def setDocuments (s : DocumentServer) (collection : String) (docs : List StoredDocument) :
    DocumentServer :=
  { s with collections :=
      if s.collections.any (·.1 == collection) then
        s.collections.map fun (c, ds) => if c == collection then (c, docs) else (c, ds)
      else s.collections ++ [(collection, docs)] }

def seed (s : DocumentServer) (collection : String) (docs : List (List (String × Json))) :
    DocumentServer :=
  let stored := docs.zipIdx.map fun (d, i) => (⟨s.issued + i, d⟩ : StoredDocument)
  { s.setDocuments collection (s.documents collection ++ stored) with issued := s.issued + docs.length }

def arrive (s : DocumentServer) (command collection : String) (entry : Json) :
    Option CommandFailure × DocumentServer :=
  let i := ((s.calls.find? (·.1 == command)).map (·.2)).getD 0
  let calls := (command, i + 1) :: s.calls.filter (·.1 != command)
  let hit := s.faults.find? fun f =>
    f.command == command && f.collection.all (· == collection) && f.skip ≤ i &&
      f.times.all (fun t => i < (f.skip + t) % Nat.pow 2 64)
  ((hit.bind (·.failure)), { s with calls := calls, log := s.log ++ [entry] })

def indexKey (ix : Index) (doc : List (String × Json)) : List Json :=
  ix.keys.map fun (k, _) => ((doc.find? (·.1 == k)).map (·.2)).getD .null

def brokenIndex? (s : DocumentServer) (collection : String) (others : List StoredDocument)
    (doc : List (String × Json)) : Option Index :=
  (s.indexes.find? fun (c, ix) =>
    c == collection && ix.unique &&
      others.any fun o => (indexKey ix o.members).zip (indexKey ix doc) |>.all fun (a, b) => sameValue a b).map (·.2)

def duplicateKey (s : DocumentServer) (collection : String) (ix : Index) : CommandFailure :=
  .write duplicateKeyCode ("E11000 duplicate key error collection: " ++ s.database ++ "." ++
    collection ++ " index: " ++ ix.name)

def find (s : DocumentServer) (collection : String) (filter : List (String × Json))
    (limit : Option Nat) : Except CommandFailure (List (List (String × Json))) × DocumentServer :=
  let entry := Json.obj [("command", .str "find"), ("collection", .str collection),
    ("filter", .obj filter)]
  let (fault, s) := s.arrive "find" collection entry
  match fault with
  | some (.command c m) => (.error (.command c m), s)
  | _ =>
    let hits := ((s.documents collection).filter (matchesFilter filter ·.members)).map (·.members)
    (.ok (match limit with
      | some n => hits.take n
      | none => hits), s)

def insert (s : DocumentServer) (collection : String) (doc : List (String × Json)) :
    Except CommandFailure Unit × DocumentServer :=
  let entry := Json.obj [("command", .str "insert"), ("collection", .str collection),
    ("documents", .arr [.obj doc])]
  let (fault, s) := s.arrive "insert" collection entry
  match fault with
  | some f => (.error f, s)
  | none =>
    let docs := s.documents collection
    match s.brokenIndex? collection docs doc with
    | some ix => (.error (s.duplicateKey collection ix), s)
    | none => (.ok (), s.seed collection [doc])

def replaceOne (s : DocumentServer) (collection : String) (filter : List (String × Json))
    (replacement : List (String × Json)) : Except CommandFailure Nat × DocumentServer :=
  let entry := Json.obj [("command", .str "update"), ("collection", .str collection),
    ("updates", .arr [.obj [("filter", .obj filter), ("replacement", .obj replacement)]])]
  let (fault, s) := s.arrive "update" collection entry
  match fault with
  | some f => (.error f, s)
  | none =>
    let docs := s.documents collection
    match docs.findIdx? (matchesFilter filter ·.members) with
    | none => (.ok 0, s)
    | some i =>
      let others := docs.eraseIdx i
      match s.brokenIndex? collection others replacement with
      | some ix => (.error (s.duplicateKey collection ix), s)
      | none =>
        let docs' := docs.modify i fun d => { d with members := replacement }
        (.ok 1, s.setDocuments collection docs')

def deleteOne (s : DocumentServer) (collection : String) (filter : List (String × Json)) :
    Except CommandFailure Unit × DocumentServer :=
  let entry := Json.obj [("command", .str "delete"), ("collection", .str collection),
    ("deletes", .arr [.obj [("filter", .obj filter), ("limit", .int 1)]])]
  let (fault, s) := s.arrive "delete" collection entry
  match fault with
  | some f => (.error f, s)
  | none =>
    let docs := s.documents collection
    match docs.findIdx? (matchesFilter filter ·.members) with
    | none => (.ok (), s)
    | some i => (.ok (), s.setDocuments collection (docs.eraseIdx i))

def createIndexes (s : DocumentServer) (collection : String) (indexes : List Index) :
    Except CommandFailure Unit × DocumentServer :=
  let entry := Json.obj [("command", .str "createIndexes"), ("collection", .str collection),
    ("indexes", .arr (indexes.map fun ix =>
      .obj [("key", .arr (ix.keys.map fun (k, d) => .arr [.str k, .int d])), ("unique", .bool ix.unique)]))]
  let (fault, s) := s.arrive "createIndexes" collection entry
  match fault with
  | some (.command c m) => (.error (.command c m), s)
  | _ => (.ok (), { s with indexes := s.indexes ++ indexes.map (collection, ·) })

def ping (s : DocumentServer) : Except CommandFailure Unit × DocumentServer :=
  let (fault, s) := s.arrive "ping" "" (.obj [("command", .str "ping")])
  match fault with
  | some (.command c m) => (.error (.command c m), s)
  | _ => (.ok (), s)

def commands : DocumentDatabase DocumentServer where
  find := find
  insert := insert
  replaceOne := replaceOne
  deleteOne := deleteOne
  createIndexes := createIndexes
  ping := ping

end DocumentServer

end DatasetProposals
