import DatasetProposals.Cli.Help
import DatasetProposals.Cli.Value
/-! Reading a command line against the option records: words left to right, values checked when the
next word is met, then environment variables and defaults. -/
namespace DatasetProposals
namespace Cli

/-- Where a value came from, weakest first. -/
inductive Source where
  | default | environment | commandLine
  deriving Repr, BEq, Inhabited

def Source.rank : Source → Nat
  | .default => 0
  | .environment => 1
  | .commandLine => 2

/-- The values given to one option or positional. -/
structure Found where
  id : String
  source : Source
  values : List Value
  deriving Repr, Inhabited

def Found.explicit (f : Found) : Bool := f.source != .default

/-- What the next plain word is for. -/
inductive Expect where
  | free
  | valueOf (a : Arg)
  | more
  deriving Inhabited

/-- The state of reading one command's words. -/
structure Scan where
  found : List Found
  pending : Option (Slot × List String)
  expect : Expect
  nextPositional : Nat
  trailing : Bool
  deriving Inhabited

/-- Why reading stopped before the end. -/
inductive Stop where
  | help (text : String)
  | version (text : String)
  | helpAsError (text : String)
  | refused (e : UsageError)
  deriving Inhabited

namespace Scan

def start : Scan := ⟨[], none, .free, 0, false⟩

def get? (s : Scan) (id : String) : Option Found := s.found.find? (·.id == id)

def explicitIds (s : Scan) : List String := (s.found.filter (·.explicit)).map (·.id)

def touch (s : Scan) (id : String) (source : Source) : Scan :=
  if (s.get? id).isSome then s else { s with found := s.found ++ [⟨id, source, []⟩] }

def addValue (s : Scan) (id : String) (v : Value) : Scan :=
  { s with found := s.found.map (fun f => if f.id == id then { f with values := f.values ++ [v] } else f) }

def erase (s : Scan) (id : String) : Scan := { s with found := s.found.filter (·.id != id) }

end Scan

def Command.errorUsage (c : Command) (used : List String) (hasSubcommands : Bool) : String :=
  if used.isEmpty then c.helpUsage hasSubcommands else c.usageWith used hasSubcommands

def Scan.react (c : Command) (hasSubcommands : Bool) (s : Scan) (slot : Slot) (source : Source)
    (raws : List String) : Scan × Option UsageError :=
  if raws.isEmpty then
    (s, some (.missingValue slot.display (slot.kind.choiceNames)))
  else if !slot.many && (s.get? slot.id).isSome then
    (s.erase slot.id, some (.repeated slot.display (c.helpUsage hasSubcommands)))
  else
    let s := s.touch slot.id source
    raws.foldl (fun (acc : Scan × Option UsageError) raw =>
      match acc with
      | (s, some e) => (s, some e)
      | (s, none) =>
        match slot.read raw with
        | .ok v => (s.addValue slot.id v, none)
        | .error e => (s, some e)) (s, none)

def Scan.resolve (c : Command) (hasSubcommands : Bool) (s : Scan) : Scan × Option UsageError :=
  match s.pending with
  | none => (s, none)
  | some (slot, raws) => Scan.react c hasSubcommands { s with pending := none } slot .commandLine raws

/-- How reading one command's words ended. -/
inductive ScanEnd where
  | stopped (stop : Stop)
  | finished (s : Scan)
  | subcommand (s : Scan) (name : String) (rest : List String)
  deriving Inhabited

def helpOfNamed (env : Environment) (c : Command) (subs : List Command) : List String → Stop
  | [] => .help (c.helpText subs env true)
  | w :: rest =>
    match subs.find? (·.name == w) with
    | some sc => helpOfNamed env sc [] rest
    | none =>
      if c.hasHelpFlag then .refused (.unrecognizedSubcommand w [] (c.helpUsage (!subs.isEmpty)))
      else .refused (.unknownHelpTopic w (c.helpUsage (!subs.isEmpty)))

def unknownLong (c : Command) (subs : List Command) (s : Scan) (name : String)
    (remaining : List String) : UsageError :=
  let hasSubs := !subs.isEmpty
  match closest? name (c.options.map (·.long)) with
  | some cand =>
    let s := match c.findLong? cand with
      | some a => s.touch a.id .commandLine
      | none => s
    .unknownArgument ("--" ++ name) (some ("--" ++ cand)) [] (c.errorUsage s.explicitIds hasSubs)
  | none =>
    let inSub := subs.filterMap (fun sc =>
      match remaining.findIdx? (· == sc.name), closest? name (sc.options.map (·.long)) with
      | some i, some cand => some (i, sc.name ++ " --" ++ cand)
      | _, _ => none)
    let best := inSub.foldl (fun (acc : Option (Nat × String)) p =>
      match acc with
      | some q => if p.1 < q.1 then some p else some q
      | none => some p) none
    let trailingTip :=
      if best.isNone && !s.trailing && !c.positionals.isEmpty then
        [Tip.passAsValue ("--" ++ name)]
      else []
    let subTip := best.toList.map (fun p => Tip.inSubcommand p.2)
    .unknownArgument ("--" ++ name) none (trailingTip ++ subTip) (c.errorUsage s.explicitIds hasSubs)

def unplacedWord (c : Command) (subs : List Command) (s : Scan) (word : String) : UsageError :=
  let names := subs.map (·.name)
  let usage := c.helpUsage (!subs.isEmpty)
  if s.trailing && names.contains word then
    .unknownArgument word none
      [Tip.removeEscape word] usage
  else if !subs.isEmpty then
    match similar word names with
    | [] =>
      if c.positionals.isEmpty then .unrecognizedSubcommand word [] usage
      else .unknownArgument word none [] usage
    | alike => .unrecognizedSubcommand word alike usage
  else .unknownArgument word none [] usage

def splitLong (rest : String) : String × Option String :=
  let cs := rest.toList
  match cs.findIdx? (· == '=') with
  | some i => (String.ofList (cs.take i), some (String.ofList (cs.drop (i + 1))))
  | none => (rest, none)

def scanWords (env : Environment) (c : Command) (subs : List Command) :
    List String → Scan → ScanEnd
  | [], s => .finished s
  | w :: rest, s =>
    let hasSubs := !subs.isEmpty
    let stopWith (r : Scan × Option UsageError) (k : Scan → ScanEnd) : ScanEnd :=
      match r with
      | (_, some e) => .stopped (.refused e)
      | (s, none) => k s
    let isMore := match s.expect with
      | .more => true
      | _ => false
    let plain (s : Scan) : ScanEnd :=
      let waiting := match s.expect with
        | .valueOf a => if s.trailing then none else some a
        | _ => none
      match waiting with
      | some a => scanWords env c subs rest { s with pending := some (a.slot, [w]), expect := .free }
      | none =>
        match c.positionals[s.nextPositional]? with
        | some p =>
          let continuing := match s.pending with
            | some (slot, raws) => if slot.id == p.id && p.many then some raws else none
            | none => none
          match continuing with
          | some raws =>
            scanWords env c subs rest { s with pending := some (p.slot, raws ++ [w]) }
          | none =>
            stopWith (s.resolve c hasSubs) fun s =>
              let s := { s with pending := some (p.slot, [w]) }
              let s := if p.many then { s with expect := .more }
                else { s with expect := .free, nextPositional := s.nextPositional + 1 }
              scanWords env c subs rest s
        | none => .stopped (.refused (unplacedWord c subs (s.resolve c hasSubs).1 w))
    if s.trailing then plain s
    else if hasSubs && !isMore && (subs.map (·.name)).contains w then
      if w == "help" then .stopped (helpOfNamed env programCommand subcommands rest)
      else .subcommand s w rest
    else if w == "--" then
      -- what waits is resolved by the next word, or at the end
      scanWords env c subs rest { s with trailing := true, expect := .free }
    else if w.startsWith "--" then
      let (name, attached) := splitLong (w.drop 2).toString
      match c.findLong? name with
      | some a =>
        if a.takesValue then
          match attached with
          | some v =>
            stopWith (s.resolve c hasSubs) fun s =>
              stopWith (Scan.react c hasSubs s a.slot .commandLine [v]) fun s =>
                scanWords env c subs rest { s with expect := .free }
          | none =>
            stopWith (s.resolve c hasSubs) fun s =>
              scanWords env c subs rest { s with pending := some (a.slot, []), expect := .valueOf a }
        else
          match attached with
          | some v =>
            .stopped (.refused (.unexpectedValue v a.spec (c.errorUsage (s.explicitIds ++ [a.id]) hasSubs)))
          | none =>
            stopWith (s.resolve c hasSubs) fun _ =>
              if a.action == .version then .stopped (.version (programName ++ " " ++ programVersion ++ "\n"))
              else .stopped (.help (c.helpText subs env true))
      | none => .stopped (.refused (unknownLong c subs (s.resolve c hasSubs).1 name rest))
    else if w.startsWith "-" && w.length ≥ 2 then
      let ch := (w.drop 1).toString.toList.headD ' '
      match c.findShort? ch with
      | some a =>
        stopWith (s.resolve c hasSubs) fun _ =>
          if a.action == .version then .stopped (.version (programName ++ " " ++ programVersion ++ "\n"))
          else .stopped (.help (c.helpText subs env false))
      | none =>
        let tips := if !c.positionals.isEmpty then
            [Tip.passAsValue ("-" ++ ch.toString)] else []
        .stopped (.refused (.unknownArgument ("-" ++ ch.toString) none tips (c.helpUsage hasSubs)))
    else plain s

def finishScan (env : Environment) (c : Command) (subs : List Command) (hadSubcommand : Bool)
    (s : Scan) : Except Stop Scan := do
  let hasSubs := !subs.isEmpty
  let lift (r : Scan × Option UsageError) : Except Stop Scan :=
    match r with
    | (_, some e) => .error (.refused e)
    | (s, none) => .ok s
  let s ← lift (s.resolve c hasSubs)
  let s ← c.options.foldlM (fun s a =>
    match a.env with
    | some name =>
      match env.get? name with
      | some v => if a.takesValue && (s.get? a.id).isNone then lift (Scan.react c hasSubs s a.slot .environment [v]) else .ok s
      | none => .ok s
    | none => .ok s) s
  let s ← c.options.foldlM (fun s a =>
    match a.default with
    | some d => if a.takesValue && (s.get? a.id).isNone then lift (Scan.react c hasSubs s a.slot .default [d]) else .ok s
    | none => .ok s) s
  if hasSubs && !hadSubcommand then
    if s.explicitIds.isEmpty then throw (.helpAsError (c.helpText subs env false))
    else throw (.refused (.missingSubcommand programName (subs.map (·.name)) (c.helpUsage true)))
  let missing := c.positionals.filter (fun p => p.required && (s.get? p.id).isNone)
  if !missing.isEmpty then
    throw (.refused (.missingRequired (missing.map (·.spec))
      (c.usageWith (s.explicitIds ++ missing.map (·.id)) hasSubs)))
  return s

/-- A read command line: the subcommand and every value found. -/
structure Matches where
  command : String
  found : List Found
  deriving Inhabited

namespace Matches

def values (m : Matches) (id : String) : List Value :=
  ((m.found.find? (·.id == id)).map (·.values)).getD []

def value? (m : Matches) (id : String) : Option Value := (m.values id).getLast?

def text? (m : Matches) (id : String) : Option String :=
  match m.value? id with
  | some (.text s) | some (.choice s) => some s
  | _ => none

def number? (m : Matches) (id : String) : Option Nat :=
  match m.value? id with
  | some (.number n) => some n
  | _ => none

def integer? (m : Matches) (id : String) : Option Int :=
  match m.value? id with
  | some (.integer n) => some n
  | _ => none

def pairs (m : Matches) (id : String) : List (String × String) :=
  (m.values id).filterMap (fun v => match v with
    | .pair k x => some (k, x)
    | _ => none)

end Matches

def mergeGlobals (top sub : List Found) : List Found :=
  let globalIds := globalOptions.map (·.id)
  let fromTop := top.filter (fun f => globalIds.contains f.id &&
    match sub.find? (·.id == f.id) with
    | some g => f.source.rank > g.source.rank
    | none => true)
  (sub.filter (fun g => !fromTop.any (·.id == g.id))) ++ fromTop

def parseCommandLine (env : Environment) (words : List String) : Except Stop Matches :=
  match scanWords env programCommand subcommands words Scan.start with
  | .stopped stop => .error stop
  | .finished s => do
    let _ ← finishScan env programCommand subcommands false s
    .error (.refused (.missingSubcommand programName [] programName))
  | .subcommand s name rest =>
    match subcommands.find? (·.name == name) with
    | none => .error (.refused (.unrecognizedSubcommand name [] programName))
    | some sub =>
      match scanWords env sub [] rest Scan.start with
      | .stopped stop => .error stop
      | .subcommand _ n _ => .error (.refused (.unrecognizedSubcommand n [] sub.usageName))
      | .finished subScan => do
        let subScan ← finishScan env sub [] false subScan
        let topScan ← finishScan env programCommand subcommands true s
        return ⟨name, mergeGlobals topScan.found subScan.found⟩

end Cli
end DatasetProposals
