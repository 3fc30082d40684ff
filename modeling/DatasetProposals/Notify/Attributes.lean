/-! The attributes substituted into an email template: a map from names to texts, kept in
byte order of the names, where inserting a name again replaces its value. -/
namespace DatasetProposals

/-- Template attributes, sorted by name with no name twice. -/
structure Attributes where
  pairs : List (String × String)
  deriving Repr, BEq, Inhabited

namespace Attributes

def empty : Attributes := ⟨[]⟩

def insertPair (k v : String) : List (String × String) → List (String × String)
  | [] => [(k, v)]
  | (k', v') :: rest =>
    if k < k' then (k, v) :: (k', v') :: rest
    else if k == k' then (k, v) :: rest
    else (k', v') :: insertPair k v rest

def insert (a : Attributes) (k v : String) : Attributes := ⟨insertPair k v a.pairs⟩

def ofList (ps : List (String × String)) : Attributes :=
  ps.foldl (fun a (k, v) => a.insert k v) empty

def get? (a : Attributes) (k : String) : Option String := (a.pairs.find? (·.1 == k)).map (·.2)

def size (a : Attributes) : Nat := a.pairs.length

def display (a : Attributes) : String :=
  String.join (a.pairs.map (fun (k, v) => k ++ "=" ++ v ++ "|_|"))

end Attributes

end DatasetProposals
