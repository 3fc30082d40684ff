import DatasetProposals.Bench.Scenario
import DatasetProposals.Bench.Pure
import DatasetProposals.Json.Text
import DatasetProposals.Contract
import DatasetProposals.Bench.Command
import DatasetProposals.Bench.Http
/-! One request line in, one answer line out. A request is a JSON object naming its operation
in `op`; the answer is `{"ok": value}` or an error object. -/
namespace DatasetProposals
namespace Bench
open Json

def countsCalls (fault : Json) : Bool := (fault.field? "skip").isSome || (fault.field? "times").isSome

def runContract (j : Json) : Outcome := do
  let rules ← faultRules j "store_faults" StoreMethod.ofName? StoreEffect.ofName?
  let setup ← readSetup (.obj [])
  let mongo := j.field? "mongo"
  let counting := match (mongo.getD .null).get "faults" with
    | .arr faults => faults.any countsCalls
    | _ => false
  if mongo.isSome && (!rules.isEmpty || counting) then
    throw (.badInput "mongo")
  let documents ← mongo.mapM documentSpec
  let world ← setup.world
  let fresh ← match documents with
    | none => pure { world with storeFaults := FaultPlan.ofRules rules }
    | some d => do
      let server ← d.connect SeedData.empty
      pure { world with documents := some server }
  let verdicts := Contract.run fresh
  let passed := (verdicts.filter Contract.Verdict.passed).length
  return .obj [("passed", .int passed), ("failed", .int (verdicts.length - passed)),
    ("total", .int verdicts.length),
    ("results", .arr (verdicts.map fun v =>
      .obj [("category", .str v.group), ("name", .str v.name), ("passed", .bool v.passed),
        ("message", match v.failure with
          | some m => .str m
          | none => .null)])),
    ("display", .str (Contract.display verdicts))]

def answerRequest (j : Json) : Json :=
  match j with
  | .obj _ =>
    match j.get "op" with
    | .str "scenario" =>
      let detail := ((j.get "error_detail").asBool?).getD false
      answer detail (runScenario j)
    | .str "conformance" => answer false (runContract j)
    | .str "cli" => answer false (runCommandLine j)
    | .str "http" => answer false (runHttp j)
    | .str op =>
      match pureOp op j with
      | some o => answer false o
      | none => answer false (.error (.badInput "unknown op"))
    | _ => answer false (.error (.badInput "field op"))
  | _ => answer false (.error (.badInput "not a JSON object"))

def respond (line : String) : String :=
  let (doc, trailing) := Doc.ofText line
  match trailing, doc.toJson? with
  | none, some j => Json.render (dropLabels (answerRequest j.canonical))
  | _, _ => Json.render (answer false (.error (.badInput "not a JSON object")))

end Bench
end DatasetProposals
