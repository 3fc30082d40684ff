/-! How alike two words are (Jaro similarity), for the "a similar argument exists" hints of the
command line. -/
namespace DatasetProposals
namespace Cli

def jaroMarks (range : Nat) (a b : List Char) : List Bool × List Bool :=
  let step (acc : List Bool × List Bool × Nat) (c : Char) : List Bool × List Bool × Nat :=
    let (ma, mb, i) := acc
    let lo := i - range
    let hi := Nat.min b.length (i + range + 1)
    let hit := ((List.range hi).filter (fun j => lo ≤ j)).find? (fun j =>
      b[j]? == some c && mb[j]? == some false)
    match hit with
    | some j => (ma ++ [true], mb.set j true, i + 1)
    | none => (ma ++ [false], mb, i + 1)
  let (ma, mb, _) := a.foldl step ([], b.map (fun _ => false), 0)
  (ma, mb)

def jaro (a b : String) : Float :=
  let xs := a.toList
  let ys := b.toList
  if xs.isEmpty && ys.isEmpty then 1.0
  else if xs.isEmpty || ys.isEmpty then 0.0
  else
    let range := Nat.max xs.length ys.length / 2 - 1
    let (ma, mb) := jaroMarks range xs ys
    let matchedA := (xs.zip ma).filterMap (fun (c, m) => if m then some c else none)
    let matchedB := (ys.zip mb).filterMap (fun (c, m) => if m then some c else none)
    let m := matchedA.length
    if m == 0 then 0.0
    else
      let t := ((matchedA.zip matchedB).filter (fun (x, y) => x != y)).length / 2
      (m.toFloat / xs.length.toFloat + m.toFloat / ys.length.toFloat +
        (m - t).toFloat / m.toFloat) / 3.0

def similar (word : String) (candidates : List String) : List String :=
  let scored := (candidates.map (fun c => (jaro word c, c))).filter (fun p => p.1 > 0.7)
  (scored.mergeSort (fun p q => p.1 ≤ q.1)).map (·.2)

def closest? (word : String) (candidates : List String) : Option String :=
  (similar word candidates).getLast?

end Cli
end DatasetProposals
