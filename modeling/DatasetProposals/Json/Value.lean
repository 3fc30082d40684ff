import DatasetProposals.Json.Number
/-! JSON values as the service reads and writes them: objects keep their members in the order
written, duplicates included. -/
namespace DatasetProposals

/-- A JSON value. -/
inductive Json where
  | null
  | bool (value : Bool)
  | int (value : Int)
  | float (written : Json.Numeral)
  | str (value : String)
  | arr (items : List Json)
  | obj (fields : List (String × Json))
  deriving Inhabited, Repr

namespace Json

mutual
def beq : Json → Json → Bool
  | null, null => true
  | bool a, bool b => a == b
  | int a, int b => a == b
  | float a, float b => a == b
  | str a, str b => a == b
  | arr xs, arr ys => beqItems xs ys
  | obj fs, obj gs => beqFields fs gs
  | _, _ => false

def beqItems : List Json → List Json → Bool
  | [], [] => true
  | x :: xs, y :: ys => beq x y && beqItems xs ys
  | _, _ => false

def beqFields : List (String × Json) → List (String × Json) → Bool
  | [], [] => true
  | (k, v) :: fs, (k', v') :: gs => k == k' && beq v v' && beqFields fs gs
  | _, _ => false
end

instance : BEq Json := ⟨beq⟩

def field? (j : Json) (key : String) : Option Json :=
  match j with
  | obj fields => (fields.reverse.find? (·.1 == key)).map (·.2)
  | _ => none

def get (j : Json) (key : String) : Json := (j.field? key).getD null

def has (j : Json) (key : String) : Bool := (j.field? key).isSome

def asString? : Json → Option String
  | str s => some s
  | _ => none

def asBool? : Json → Option Bool
  | bool b => some b
  | _ => none

def asInt? : Json → Option Int
  | int n => some n
  | _ => none

def asArray? : Json → Option (List Json)
  | arr xs => some xs
  | _ => none

def asObject? : Json → Option (List (String × Json))
  | obj fs => some fs
  | _ => none

def sameNumber? : Json → Json → Option Bool
  | int a, int b => some (a == b)
  | int a, float n => some (n.toDouble.equalsInt a)
  | float n, int a => some (n.toDouble.equalsInt a)
  | float m, float n => some (m.toDouble.sameValue n.toDouble)
  | _, _ => none

def isNull : Json → Bool
  | null => true
  | _ => false

def insertSorted (k : String) (v : Json) : List (String × Json) → List (String × Json)
  | [] => [(k, v)]
  | (k', v') :: rest =>
    if k < k' then (k, v) :: (k', v') :: rest
    else if k == k' then (k, v) :: rest
    else (k', v') :: insertSorted k v rest

mutual
def canonical : Json → Json
  | arr xs => arr (canonicalItems xs)
  | obj fs => obj (canonicalFields fs [])
  | j => j

def canonicalItems : List Json → List Json
  | [] => []
  | x :: xs => canonical x :: canonicalItems xs

def canonicalFields : List (String × Json) → List (String × Json) → List (String × Json)
  | [], acc => acc
  | (k, v) :: rest, acc => canonicalFields rest (insertSorted k (canonical v) acc)
end

mutual
def texts : Json → List String
  | str s => [s]
  | arr xs => textsOfItems xs
  | obj fs => textsOfFields fs
  | _ => []

def textsOfItems : List Json → List String
  | [] => []
  | x :: xs => texts x ++ textsOfItems xs

def textsOfFields : List (String × Json) → List String
  | [] => []
  | (k, v) :: rest => k :: (texts v ++ textsOfFields rest)
end

end Json

end DatasetProposals
