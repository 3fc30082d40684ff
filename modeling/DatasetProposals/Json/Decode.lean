import DatasetProposals.Json.Doc
import DatasetProposals.Json.Text
import DatasetProposals.Text.Printable
/-! Reading typed values out of a positioned document, the way derived readers of records do, each
fault with its path and byte offset. -/
namespace DatasetProposals
namespace Json

/-- The kind of value that was met where another was expected. -/
inductive Unexpected where
  | bool (value : Bool)
  | unsigned (value : Nat)
  | signed (value : Int)
  | float (value : Text.Double)
  | double (value : Text.Double)
  | str (value : String)
  | null
  | unit
  | seq
  | map
  deriving Repr, BEq, Inhabited

/-- Why a typed value could not be read. -/
inductive Fault where
  | invalidType (got : Unexpected) (expected : String)
  | invalidValue (got : Unexpected) (expected : String)
  | invalidLength (length : Nat) (expected : String)
  | unknownVariant (name : String) (expected : List String)
  | missingField (name : String)
  | duplicateField (name : String)
  | malformed (code : SyntaxCode)
  | documentEnum
  deriving Repr, BEq, Inhabited

/-- One step of a path into a document. -/
inductive PathStep where
  | index (i : Nat)
  | key (name : String)
  deriving Repr, BEq, Inhabited

/-- A fault, where it lies in the document, and the byte offset it is reported at. -/
structure DecodeError where
  fault : Fault
  path : List PathStep
  offset : Nat
  deriving Repr, BEq, Inhabited

def DecodeError.isSyntax (e : DecodeError) : Bool :=
  match e.fault with
  | .malformed _ => true
  | _ => false

abbrev Decoder (α : Type) := Doc → Except DecodeError α

def hexText (n : Nat) : String :=
  String.ofList ((Nat.toDigits 16 n))

def debugQuote (s : String) : String :=
  let esc (c : Char) : String :=
    if c == '"' then "\\\""
    else if c == '\\' then "\\\\"
    else if c == '\n' then "\\n"
    else if c == '\r' then "\\r"
    else if c == '\t' then "\\t"
    else if c.toNat == 0 then "\\0"
    else if Text.isGraphemeExtend c || !Text.isPrintable c then
      "\\u" ++ "\x7b" ++ hexText c.toNat ++ "\x7d"
    else c.toString
  "\"" ++ String.join (s.toList.map esc) ++ "\""

def readerFloats : Text.FloatFormat := floatFormat

def displayFloats : Text.FloatFormat := ⟨none, 1⟩

def Unexpected.text : Unexpected → String
  | .bool b => s!"boolean `{b}`"
  | .unsigned n => s!"integer `{n}`"
  | .signed n => s!"integer `{n}`"
  | .float x => "floating point `" ++ x.write readerFloats ++ "`"
  | .double x => "floating point `" ++ x.write displayFloats ++ "`"
  | .str s => "string " ++ debugQuote s
  | .null => "null"
  | .unit => "unit value"
  | .seq => "sequence"
  | .map => "map"

def ticked (names : List String) : String :=
  ", ".intercalate (names.map (fun n => "`" ++ n ++ "`"))

def Fault.message : Fault → String
  | .invalidType u e => "invalid type: " ++ u.text ++ ", expected " ++ e
  | .invalidValue u e => "invalid value: " ++ u.text ++ ", expected " ++ e
  | .invalidLength n e => s!"invalid length {n}, expected " ++ e
  | .unknownVariant v vs =>
    let expected := match vs with
      | [] => "there are no variants"
      | [a] => "expected `" ++ a ++ "`"
      | [a, b] => "expected `" ++ a ++ "` or `" ++ b ++ "`"
      | _ => "expected one of " ++ ticked vs
    "unknown variant `" ++ v ++ "`, " ++ expected
  | .missingField f => "missing field `" ++ f ++ "`"
  | .duplicateField f => "duplicate field `" ++ f ++ "`"
  | .malformed c => c.message
  | .documentEnum => "expected a string enum, got a document instead"

def pathText : List PathStep → String
  | [] => ""
  | steps =>
    let rec go : Bool → List PathStep → String
      | _, [] => ""
      | _, .index i :: rest => s!"[{i}]" ++ go false rest
      | first, .key k :: rest => (if first then "" else ".") ++ k ++ go false rest
    go true steps

def DecodeError.textMessage (text : String) (e : DecodeError) : String :=
  e.fault.message ++ atPosition text e.offset

def DecodeError.pathMessage (text : String) (e : DecodeError) : String :=
  let p := pathText e.path
  (if p.isEmpty then "" else p ++ ": ") ++ e.textMessage text

def Doc.start : Doc → Nat
  | .scalar _ s _ => s
  | .arr s _ _ => s
  | .obj s _ _ => s
  | .broken e => e.offset

def Doc.stop : Doc → Nat
  | .scalar _ _ e => e
  | .arr s _ close => (close.map (· + 1)).getD s
  | .obj s _ close => (close.map (· + 1)).getD s
  | .broken e => e.offset

mutual
def Doc.breakOf? : Doc → Option SyntaxError
  | .scalar _ _ _ => none
  | .arr _ items _ => Doc.itemsBreak? items
  | .obj _ members _ => Doc.membersBreak? members
  | .broken e => some e

def Doc.itemsBreak? : List (Nat × Doc) → Option SyntaxError
  | [] => none
  | (_, d) :: rest => (Doc.breakOf? d).orElse (fun _ => Doc.itemsBreak? rest)

def Doc.membersBreak? : List Member → Option SyntaxError
  | [] => none
  | .field _ _ d :: rest => (Doc.breakOf? d).orElse (fun _ => Doc.membersBreak? rest)
  | .broken e :: _ => some e
end

namespace Decoder

def fail (fault : Fault) (offset : Nat) : Except DecodeError α := .error ⟨fault, [], offset⟩

def broke (e : SyntaxError) : Except DecodeError α := fail (.malformed e.code) e.offset

def under (step : PathStep) (r : Except DecodeError α) : Except DecodeError α :=
  match r with
  | .error e => .error { e with path := step :: e.path }
  | .ok a => .ok a

def scalarUnexpected : Json → Unexpected
  | .null => .null
  | .bool b => .bool b
  | .int n => if n < 0 then .signed n else .unsigned n.toNat
  | .float n => .float n.toDouble
  | .str s => .str s
  | .arr _ => .seq
  | .obj _ => .map

def mismatch (expected : String) : Decoder α
  | .scalar v _ stop => fail (.invalidType (scalarUnexpected v) expected) stop
  | .arr start _ _ => fail (.invalidType .seq expected) start
  | .obj start _ _ => fail (.invalidType .map expected) start
  | .broken e => broke e

def string : Decoder String
  | .scalar (.str s) _ _ => .ok s
  | d => mismatch "a string" d

def bool : Decoder Bool
  | .scalar (.bool b) _ _ => .ok b
  | d => mismatch "a boolean" d

def intIn (name : String) (lo hi : Int) : Decoder Int
  | .scalar (.int n) _ stop =>
    if lo ≤ n && n ≤ hi then .ok n
    else fail (.invalidValue (scalarUnexpected (.int n)) name) stop
  | d => mismatch name d

def int64 : Decoder Int := intIn "i64" (-9223372036854775808) 9223372036854775807
def int32 : Decoder Int := intIn "i32" (-2147483648) 2147483647
def uint64 : Decoder Nat := fun d => (intIn "u64" 0 18446744073709551615 d).map Int.toNat
def uint32 : Decoder Nat := fun d => (intIn "u32" 0 4294967295 d).map Int.toNat

def list (item : Decoder α) : Decoder (List α)
  | .arr _ items _ =>
    let rec go : Nat → List (Nat × Doc) → Except DecodeError (List α)
      | _, [] => .ok []
      | i, (_, d) :: rest => do
        let a ← under (.index i) (item d)
        let as ← go (i + 1) rest
        return a :: as
    go 0 items
  | d => mismatch "a sequence" d

def unit : Decoder Unit
  | .scalar .null _ _ => .ok ()
  | d => mismatch "unit" d

def variant (names : List String) : Decoder String
  | .scalar (.str s) _ stop => if names.contains s then .ok s else fail (.unknownVariant s names) stop
  | .scalar _ start _ => fail (.malformed .expectedSomeValue) (start + 1)
  | .arr start _ _ => fail (.malformed .expectedSomeValue) (start + 1)
  | .obj start members close =>
    match members with
    | [] => fail (.malformed .expectedSomeValue) (close.getD start + 1)
    | .broken e :: _ => broke e
    | .field key afterKey value :: rest =>
      if !names.contains key then fail (.unknownVariant key names) afterKey
      else do
        under (.key key) (unit value)
        match rest with
        | [] => .ok key
        | .broken e :: _ => broke e
        | .field _ _ _ :: _ => fail (.malformed .expectedSomeValue) (value.stop)
  | .broken e => broke e

def storedVariant (names : List String) : Decoder String
  | .obj _ _ _ => fail .documentEnum 0
  | d => variant names d

def any : Decoder Json := fun d =>
  match Doc.breakOf? d with
  | some e => broke e
  | none =>
    match d.toJson? with
    | some j => .ok j
    | none => fail (.malformed .eofWhileParsingValue) d.start

end Decoder

/-- One field of a record: the keys that name it (the field's own name first), whether it may
be absent, and how its value is read (the value itself is read again when the record is
built, so here only faults matter). -/
structure FieldSpec where
  names : List String
  optional : Bool
  check : Doc → Except DecodeError Unit

def FieldSpec.named (names : List String) (optional : Bool) (d : Decoder α) : FieldSpec :=
  ⟨names, optional, fun doc => (d doc).map (fun _ => ())⟩

def FieldSpec.req (name : String) (d : Decoder α) : FieldSpec := FieldSpec.named [name] false d

def FieldSpec.opt (name : String) (d : Decoder α) : FieldSpec := FieldSpec.named [name] true d

def fieldIndex? (fields : List FieldSpec) (key : String) : Option Nat :=
  fields.findIdx? (fun f => f.names.contains key)

def readRecord (what : String) (fields : List FieldSpec) : Decoder (List (Option Doc))
  | .obj _ members close =>
    let rec go : List Member → List (Option Doc) → Except DecodeError (List (Option Doc))
      | [], slots =>
        match close with
        | none => Decoder.fail (.malformed .eofWhileParsingObject) 0
        | some c =>
          match (fields.zip slots).find? (fun (f, s) => !f.optional && s.isNone) with
          | some (f, _) => Decoder.fail (.missingField (f.names.headD "")) (c + 1)
          | none => .ok slots
      | .broken e :: _, _ => Decoder.broke e
      | .field key afterKey value :: rest, slots =>
        match fieldIndex? fields key with
        | none =>
          match Doc.breakOf? value with
          | some e => Decoder.under (.key key) (Decoder.broke e)
          | none => go rest slots
        | some i =>
          match slots[i]? with
          | some (some _) =>
            Decoder.fail (.duplicateField ((fields[i]?.map (·.names.headD "")).getD key)) afterKey
          | _ =>
            match fields[i]? with
            | none => go rest slots
            | some f =>
              match Decoder.under (.key key) (f.check value) with
              | .error e => .error e
              | .ok () => go rest (slots.set i (some value))
    go members (fields.map (fun _ => none))
  | .arr _ items close =>
    let n := fields.length
    let rec fill : Nat → List FieldSpec → List (Nat × Doc) → Except DecodeError (List (Option Doc))
      | _, [], [] => .ok []
      | _, [], (start, d) :: _ =>
        match d with
        | .broken e =>
          if e.code == .trailingComma || e.code == .eofWhileParsingList then Decoder.broke e
          else Decoder.fail (.malformed .trailingCharacters) (min e.offset (start + 1))
        | _ => Decoder.fail (.malformed .trailingCharacters) (start + 1)
      | i, f :: fs, [] =>
        match close with
        | none => Decoder.fail (.malformed .eofWhileParsingList) 0
        | some c =>
          if f.optional then do
            let rest ← fill (i + 1) fs []
            return none :: rest
          else Decoder.fail (.invalidLength i (what ++ s!" with {n} elements")) (c + 1)
      | i, f :: fs, (_, d) :: items =>
        match d with
        | .broken e => Decoder.broke e
        | _ => do
          Decoder.under (.index i) (f.check d)
          let rest ← fill (i + 1) fs items
          return some d :: rest
    fill 0 fields items
  | d => Decoder.mismatch what d

def slotValue (slots : List (Option Doc)) (i : Nat) (d : Decoder α) (default : α) :
    Except DecodeError α :=
  match slots[i]? with
  | some (some doc) => d doc
  | _ => .ok default

end Json
end DatasetProposals
