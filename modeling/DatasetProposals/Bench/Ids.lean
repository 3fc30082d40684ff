import DatasetProposals.Json.Value
/-! Stable placeholders for generated node ids: a uuid keeps the number it was first given, and a
new one takes the next number of its kind, in depth-first order of the answer. -/
namespace DatasetProposals
namespace Bench

/-- The numbers given to uuids so far, and the placeholder ids given out. -/
structure IdBook where
  numbers : List (String × Nat)
  proposalCount : Nat
  datasetCount : Nat
  given : List (String × String)
  deriving Repr, Inhabited

namespace IdBook

def empty : IdBook := ⟨[], 0, 0, []⟩

def proposalPrefix : String := "N:proposal:"
def datasetPrefix : String := "N:dataset:"

def placeholder (n : Nat) : String :=
  let digits := toString n
  "00000000-0000-0000-0000-" ++ String.ofList (List.replicate (12 - digits.length) '0') ++ digits

def isLowerHex (c : Char) : Bool := ('0' ≤ c && c ≤ '9') || ('a' ≤ c && c ≤ 'f')

def isUuid (cs : List Char) : Bool :=
  cs.length == 36 &&
    (cs.zipIdx.all fun (c, i) =>
      if i == 8 || i == 13 || i == 18 || i == 23 then c == '-' else isLowerHex c)

def name (book : IdBook) (pre : String) (dataset : Bool) (uuid : String) : String × IdBook :=
  let (n, book) := match book.numbers.find? (·.1 == uuid) with
    | some (_, n) => (n, book)
    | none =>
      if dataset then
        let n := book.datasetCount + 1
        (n, { book with numbers := book.numbers ++ [(uuid, n)], datasetCount := n })
      else
        let n := book.proposalCount + 1
        (n, { book with numbers := book.numbers ++ [(uuid, n)], proposalCount := n })
  let shown := pre ++ placeholder n
  let given := if book.given.any (·.1 == shown) then book.given else book.given ++ [(shown, pre ++ uuid)]
  (shown, { book with given := given })

def rewriteChars (book : IdBook) : List Char → List Char × IdBook
  | [] => ([], book)
  | c :: rest =>
    let cs := c :: rest
    let pp := proposalPrefix.toList
    let dp := datasetPrefix.toList
    if cs.take pp.length == pp && isUuid ((cs.drop pp.length).take 36) then
      let (shown, book) := book.name proposalPrefix false (String.ofList ((cs.drop pp.length).take 36))
      let (out, book') := rewriteChars book (cs.drop (pp.length + 36))
      (shown.toList ++ out, book')
    else if cs.take dp.length == dp && isUuid ((cs.drop dp.length).take 36) then
      let (shown, book) := book.name datasetPrefix true (String.ofList ((cs.drop dp.length).take 36))
      let (out, book') := rewriteChars book (cs.drop (dp.length + 36))
      (shown.toList ++ out, book')
    else
      let (out, book') := rewriteChars book rest
      (c :: out, book')
  termination_by cs => cs.length
  decreasing_by
    all_goals
      try simp only [List.length_cons, List.length_drop]
      omega

def rewriteText (book : IdBook) (s : String) : String × IdBook :=
  let (cs, b) := rewriteChars book s.toList
  (String.ofList cs, b)

mutual
def rewrite (book : IdBook) : Json → Json × IdBook
  | .str s => let (t, b) := rewriteText book s; (.str t, b)
  | .arr xs => let (ys, b) := rewriteItems book xs; (.arr ys, b)
  | .obj fs => let (gs, b) := rewriteFields book fs; (.obj gs, b)
  | j => (j, book)

def rewriteItems (book : IdBook) : List Json → List Json × IdBook
  | [] => ([], book)
  | x :: xs =>
    let (y, b) := rewrite book x
    let (ys, b') := rewriteItems b xs
    (y :: ys, b')

def rewriteFields (book : IdBook) : List (String × Json) → List (String × Json) × IdBook
  | [] => ([], book)
  | (k, v) :: fs =>
    let (w, b) := rewrite book v
    let (gs, b') := rewriteFields b fs
    ((k, w) :: gs, b')
end

def replaceAll (s pat rep : String) : String :=
  if pat.isEmpty then s else rep.intercalate (s.splitOn pat)

def restoreText (book : IdBook) (s : String) : String :=
  book.given.foldl (fun acc (shown, id) => replaceAll acc shown id) s

mutual
def restore (book : IdBook) : Json → Json
  | .str s => .str (restoreText book s)
  | .arr xs => .arr (restoreItems book xs)
  | .obj fs => .obj (restoreFields book fs)
  | j => j

def restoreItems (book : IdBook) : List Json → List Json
  | [] => []
  | x :: xs => restore book x :: restoreItems book xs

def restoreFields (book : IdBook) : List (String × Json) → List (String × Json)
  | [] => []
  | (k, v) :: fs => (k, restore book v) :: restoreFields book fs
end

end IdBook

end Bench
end DatasetProposals
