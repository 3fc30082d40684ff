import DatasetProposals.Json.Value
import DatasetProposals.Text.Alphanumeric
import DatasetProposals.Text.Pattern
/-! Log events, the filter of directives that decides which are written, and the text and JSON line
formats. -/
namespace DatasetProposals
namespace Log

/-- How serious an event is, the most serious first. -/
inductive Level where
  | error | warn | info | debug | trace
  deriving Repr, BEq, Inhabited

def Level.rank : Level → Nat
  | .error => 1
  | .warn => 2
  | .info => 3
  | .debug => 4
  | .trace => 5

def Level.label : Level → String
  | .error => "ERROR"
  | .warn => "WARN"
  | .info => "INFO"
  | .debug => "DEBUG"
  | .trace => "TRACE"

/-- The value of an event's field. -/
inductive FieldValue where
  | text (s : String)
  | number (n : Int)
  deriving Repr, BEq, Inhabited

/-- A log event. -/
structure Event where
  level : Level
  target : String
  message : String
  fields : List (String × FieldValue)
  deriving Repr, Inhabited

/-- The line formats. -/
inductive Format where
  | text | json
  deriving Repr, BEq, Inhabited

/-- One directive of a filter: the target prefix it is for (all when none), the most verbose
level it lets through (0 lets none through), and whether it names a span. -/
structure Directive where
  target : Option String
  verbosity : Nat
  spanned : Bool
  deriving Repr, Inhabited

def verbosityOf? (s : String) : Option Nat :=
  let digits := match s.toList with
    | '+' :: rest => rest
    | cs => cs
  if !digits.isEmpty && digits.all Char.isDigit then
    let n := digits.foldl (fun n d => n * 10 + (d.toNat - 48)) 0
    if n ≤ 5 then some n else none
  else
    match s.toLower with
    | "" => some 1
    | "off" => some 0
    | "error" => some 1
    | "warn" => some 2
    | "info" => some 3
    | "debug" => some 4
    | "trace" => some 5
    | _ => none

def isTargetChar (c : Char) : Bool := Text.isAlphanumeric c || c == '_' || c == ':' || c == '-'

def isPlainValue (v : String) : Bool :=
  let unsigned := match v.toList with
    | '+' :: rest | '-' :: rest => rest
    | cs => cs
  let whole := unsigned.takeWhile Char.isDigit
  let afterWhole := unsigned.drop whole.length
  let (fraction, afterFraction) := match afterWhole with
    | '.' :: rest => (rest.takeWhile Char.isDigit, rest.dropWhile Char.isDigit)
    | rest => ([], rest)
  let exponentOk := match afterFraction with
    | [] => true
    | e :: rest =>
      (e == 'e' || e == 'E') &&
        let digits := match rest with
          | '+' :: ds | '-' :: ds => ds
          | ds => ds
        !digits.isEmpty && digits.all Char.isDigit
  v == "true" || v == "false" ||
    ["inf", "infinity", "nan"].contains (String.ofList unsigned).toLower ||
    ((!whole.isEmpty || !fraction.isEmpty) && exponentOk)

/-- Why a directive could not be read. -/
inductive DirectiveError where
  | malformed
  | badLevel
  | badField (fault : Pattern.PatternFault)
  deriving Repr, BEq, Inhabited

def DirectiveError.message : DirectiveError → String
  | .malformed => "invalid filter directive"
  | .badLevel =>
    "error parsing level filter: expected one of \"off\", \"error\", \"warn\", \"info\", " ++
      "\"debug\", \"trace\", or a number 0-5"
  | .badField f => "invalid field filter: " ++ f.message

def checkSpan (inside : List Char) : Except DirectiveError Unit :=
  let name := inside.takeWhile (· != '{')
  match inside.drop name.length with
  | [] => .ok ()
  | _ :: braced =>
    if braced.getLast? != some '}' || braced.length < 2 then .error .malformed
    else
      let fields := (String.ofList braced.dropLast).splitOn ","
      fields.forM fun field =>
        match field.splitOn "=" with
        | _ :: value :: _ =>
          if isPlainValue value then .ok ()
          else match Pattern.check value with
            | some fault => .error (.badField fault)
            | none => .ok ()
        | _ => .ok ()

def levelPart (target : Option String) (spanned : Bool) : List Char → Except DirectiveError Directive
  | [] => .ok ⟨target, 5, spanned⟩
  | '=' :: levelText =>
    match verbosityOf? (String.ofList levelText) with
    | some v => .ok ⟨target, v, spanned⟩
    | none => .error .badLevel
  | _ => .error .malformed

def spanPart (target : Option String) : List Char → Except DirectiveError Directive
  | '[' :: rest =>
    let inside := rest.takeWhile (· != ']')
    match rest.drop inside.length with
    | ']' :: after => do
      checkSpan inside
      levelPart target true after
    | _ => .error .malformed
  | rest => levelPart target false rest

def Directive.parse (s : String) : Except DirectiveError Directive :=
  let cs := s.toList
  match verbosityOf? s with
  | some v => .ok ⟨none, v, false⟩
  | none =>
    match cs with
    | '[' :: _ => spanPart none cs
    | c :: _ =>
      if isTargetChar c then
        let target := cs.takeWhile fun c => c != '[' && c != '='
        spanPart (some (String.ofList target)) (cs.drop target.length)
      else if cs.contains '=' then
        if (cs.takeWhile (· != '=')).any isTargetChar then .error .badLevel else .error .malformed
      else
        match cs.dropWhile Text.isBlank with
        | d :: _ => if Text.isBlank c && isTargetChar d then .ok ⟨some s, 5, false⟩ else .error .malformed
        | [] => .error .malformed
    | [] => .ok ⟨none, 1, false⟩

/-- A filter: its directives in the order given. -/
structure Filter where
  directives : List Directive
  deriving Repr, Inhabited

def directiveWords (s : String) : List String := (s.splitOn ",").filter (!·.isEmpty)

def Filter.parse? (s : String) : Option Filter :=
  match (directiveWords s).mapM Directive.parse with
  | .ok ds => some ⟨ds⟩
  | .error _ => none

def Filter.parseLossy (s : String) : Filter × List (String × DirectiveError) :=
  let read := (directiveWords s).map fun w => (w, Directive.parse w)
  let kept := read.filterMap fun (_, r) => match r with | .ok d => some d | .error _ => none
  (⟨if kept.isEmpty then [⟨none, 1, false⟩] else kept⟩,
    read.filterMap fun (w, r) => match r with | .ok _ => none | .error e => some (w, e))

def Filter.allows (f : Filter) (e : Event) : Bool :=
  let matching := f.directives.filter (fun d => !d.spanned &&
    match d.target with
    | some t => e.target.startsWith t
    | none => true)
  let length (d : Directive) : Nat := (d.target.map String.length).getD 0
  let best := matching.foldl (fun (acc : Option Directive) d =>
    match acc with
    | some b => if length d ≥ length b then some d else some b
    | none => some d) none
  match best with
  | some d => e.level.rank ≤ d.verbosity
  | none => false

def FieldValue.shown : FieldValue → String
  | .text s => s
  | .number n => if n < 0 then "-" ++ toString n.natAbs else toString n.natAbs

def shownChar (c : Char) : String :=
  let n := c.toNat
  if n == 0x1B || n == 0x07 || n == 0x08 || n == 0x0C || n == 0x7F then
    "\\x" ++ String.ofList (Nat.toDigits 16 n |>.leftpad 2 '0')
  else if 0x80 ≤ n && n ≤ 0x9F then "\\u\x7b" ++ String.ofList (Nat.toDigits 16 n) ++ "\x7d"
  else c.toString

def shownText (s : String) : String := String.join (s.toList.map shownChar)

def Event.textLine (e : Event) : String :=
  let label := e.level.label
  String.ofList (List.replicate (5 - label.length) ' ') ++ label ++ " " ++ e.target ++ ": " ++
    shownText e.message ++
    String.join (e.fields.map (fun (k, v) => " " ++ k ++ "=" ++ shownText v.shown))

def Event.jsonObject (e : Event) : Json :=
  .obj [("level", .str e.level.label),
    ("fields", .obj (("message", .str e.message) :: e.fields.map (fun (k, v) =>
      (k, match v with
        | .text s => Json.str s
        | .number n => Json.int n)))),
    ("target", .str e.target)]

end Log
end DatasetProposals
