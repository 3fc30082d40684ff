import DatasetProposals.Json.Text
import DatasetProposals.Text.Search
/-! A scripted SQL server that answers each statement from a list of rules and logs it, and the
decoding of the rows it returns. -/
namespace DatasetProposals
namespace Sql
open Json

/-- The column types a rule may declare. -/
inductive ColumnType where
  | bool
  | int2
  | int4
  | int8
  | text
  | varchar
  deriving Repr, DecidableEq, Inhabited

namespace ColumnType

def all : List ColumnType := [.bool, .int2, .int4, .int8, .text, .varchar]

def name : ColumnType → String
  | .bool => "bool"
  | .int2 => "int2"
  | .int4 => "int4"
  | .int8 => "int8"
  | .text => "text"
  | .varchar => "varchar"

def sqlName : ColumnType → String
  | .bool => "BOOL"
  | .int2 => "INT2"
  | .int4 => "INT4"
  | .int8 => "INT8"
  | .text => "TEXT"
  | .varchar => "VARCHAR"

def ofName? (s : String) : Option ColumnType := all.find? (·.name == s)

def isInteger : ColumnType → Bool
  | .int2 | .int4 | .int8 => true
  | _ => false

end ColumnType

/-- A value bound to a statement parameter. -/
inductive Param where
  | null
  | int (n : Int)
  | text (s : String)
  deriving Repr, BEq, Inhabited

def Param.toJson : Param → Json
  | .null => .null
  | .int n => .int n
  | .text s => .str s

/-- A value of a result row, as encoded for its column. -/
inductive Cell where
  | null
  | int (n : Int)
  | bool (b : Bool)
  | bytes (s : String)
  deriving Repr, BEq, Inhabited

/-- A scripted answer. -/
structure Rule where
  pattern : String
  params : Option (List Json)
  columns : Option (List (String × ColumnType))
  rows : List (List Json)
  failure : Option (String × String)
  deriving Repr, Inhabited

/-- The columns and rows a statement returned. -/
structure Reply where
  columns : List (String × ColumnType)
  rows : List (List Cell)
  deriving Repr, Inhabited

/-- The rules, and the statements received so far with their bound values. -/
structure Server where
  rules : List Rule
  log : List (String × List Param)
  deriving Repr, Inhabited

def wrapSigned (bits : Nat) (n : Int) : Int :=
  let m := n % (Nat.pow 2 bits : Int)
  if m ≥ (Nat.pow 2 (bits - 1) : Int) then m - (Nat.pow 2 bits : Int) else m

def fitsInt64 (n : Int) : Bool := -9223372036854775808 ≤ n && n ≤ 9223372036854775807

def encodeInt (ty : ColumnType) (n : Int) : Cell :=
  if !fitsInt64 n then .bytes (toString n)
  else match ty with
    | .int2 => .int (wrapSigned 16 n)
    | .int4 => .int (wrapSigned 32 n)
    | .int8 => .int n
    | _ => .bytes (toString n)

def paramNumber? : Json → Option Nat
  | .obj fields =>
    match fields.find? (·.1 == "param") with
    | some (_, .int n) => if 0 ≤ n && n ≤ 18446744073709551615 then some n.toNat else none
    | _ => none
  | _ => none

def encode (bound : List Param) (ty : ColumnType) (j : Json) : Cell :=
  match paramNumber? j with
  | some n =>
    match (if n ≥ 1 then bound[n - 1]? else none) with
    | some (.int k) => encodeInt ty k
    | some (.text s) => .bytes s
    | _ => .null
  | none =>
    match j with
    | .null => .null
    | .int n => encodeInt ty n
    | .bool b => if ty == .bool then .bool b else .bytes (if b then "true" else "false")
    | .str s => .bytes s
    | j => .bytes j.render

def encodeRow (bound : List Param) (columns : List (String × ColumnType)) (row : List Json) : List Cell :=
  columns.zipIdx.map fun ((_, ty), i) => encode bound ty (row.getD i .null)

namespace Server

def applicable (s : Server) (sql : String) : List Rule := s.rules.filter (Text.mentions sql ·.pattern)

def answer (s : Server) (sql : String) (bound : List Param) : Except String Reply :=
  let rules := s.applicable sql
  let columns := ((rules.head?).bind (·.columns)).getD []
  match rules.find? (fun r => r.params.all (· == bound.map Param.toJson)) with
  | none => .ok ⟨columns, []⟩
  | some r =>
    match r.failure with
    | some (_, message) => .error ("error returned from database: " ++ message)
    | none => .ok ⟨columns, r.rows.map (encodeRow bound columns)⟩

def execute (s : Server) (sql : String) (bound : List Param) : Except String Reply × Server :=
  (s.answer sql bound, { s with log := s.log ++ [(sql, bound)] })

end Server

/-! Reading rows. -/

def decodeError (label source : String) : String :=
  "error occurred while decoding column " ++ label ++ ": " ++ source

def mismatch (rustType rustSql : String) (actual : ColumnType) : String :=
  "mismatched types; Rust type `" ++ rustType ++ "` (as SQL type `" ++ rustSql ++
    "`) is not compatible with SQL type `" ++ actual.sqlName ++ "`"

def unexpectedNull : String := "unexpected null; try decoding as an `Option`"

def bigEndian (bytes : List UInt8) : Int :=
  let n : Nat := bytes.foldl (fun (acc : Nat) b => acc * 256 + b.toNat) 0
  if bytes.isEmpty then 0
  else if n ≥ Nat.pow 2 (8 * bytes.length - 1) then (n : Int) - (Nat.pow 2 (8 * bytes.length) : Int) else n

def cellInteger : Cell → Except String Int
  | .int n => .ok n
  | .bool b => .ok (if b then 1 else 0)
  | .null => .error unexpectedNull
  | .bytes s =>
    let bytes := s.toUTF8.toList
    if bytes.isEmpty then .error "Value Buffer found empty while decoding to integer type"
    else if bytes.length ≥ 9 then
      .error ("Value Buffer exceeds 8 bytes while decoding to integer type. Buffer size = " ++
        toString bytes.length ++ " bytes ")
    else .ok (bigEndian bytes)

def readInt64 (label : String) (ty : ColumnType) (cell : Cell) : Except String Int :=
  match cell with
  | .null => .error (decodeError label unexpectedNull)
  | _ =>
    if ty != .int8 then .error (decodeError label (mismatch "i64" "INT8" ty))
    else (cellInteger cell).mapError (decodeError label)

def readInt32 (label : String) (ty : ColumnType) (cell : Cell) : Except String Int :=
  match cell with
  | .null => .error (decodeError label unexpectedNull)
  | _ =>
    if ty != .int4 then .error (decodeError label (mismatch "i32" "INT4" ty))
    else match cellInteger cell with
      | .error e => .error (decodeError label e)
      | .ok n =>
        if -2147483648 ≤ n && n ≤ 2147483647 then .ok n
        else .error (decodeError label "out of range integral type conversion attempted")

def readText (label : String) (ty : ColumnType) (cell : Cell) : Except String String :=
  match cell with
  | .null => .error (decodeError label unexpectedNull)
  | .bytes s =>
    if ty == .text || ty == .varchar then .ok s
    else .error (decodeError label (mismatch "alloc::string::String" "TEXT" ty))
  | .int n =>
    if ty == .text || ty == .varchar then .ok (toString n)
    else .error (decodeError label (mismatch "alloc::string::String" "TEXT" ty))
  | .bool _ => .error (decodeError label (mismatch "alloc::string::String" "TEXT" ty))

/-- One row of a reply, read by column name. -/
structure Row where
  columns : List (String × ColumnType)
  cells : List Cell

namespace Row

def column (r : Row) (name : String) : Except String (ColumnType × Cell) :=
  let hits := (r.columns.zip r.cells).filter (·.1.1 == name)
  match hits.getLast? with
  | some ((_, ty), cell) => .ok (ty, cell)
  | none => .error ("no column found for name: " ++ name)

def int64 (r : Row) (name : String) : Except String Int := do
  let (ty, cell) ← r.column name
  readInt64 ("\"" ++ name ++ "\"") ty cell

def text (r : Row) (name : String) : Except String String := do
  let (ty, cell) ← r.column name
  readText ("\"" ++ name ++ "\"") ty cell

def firstInt64 (r : Row) : Except String Int :=
  match r.columns.head?, r.cells.head? with
  | some (_, ty), some cell => readInt64 "0" ty cell
  | _, _ => .error ("column index out of bounds: the len is " ++ toString r.columns.length ++
      ", but the index is 0")

def firstInt32 (r : Row) : Except String Int :=
  match r.columns.head?, r.cells.head? with
  | some (_, ty), some cell => readInt32 "0" ty cell
  | _, _ => .error ("column index out of bounds: the len is " ++ toString r.columns.length ++
      ", but the index is 0")

end Row

def Reply.rowList (r : Reply) : List Row := r.rows.map fun cells => ⟨r.columns, cells⟩

def noRows : String := "no rows returned by a query that expected to return at least one row"

end Sql
end DatasetProposals
