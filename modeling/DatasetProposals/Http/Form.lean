import DatasetProposals.Http.Message
/-! The form encoding of a query: pairs split at `&` and the first `=`, `+` for a space and
percent-decoding of the UTF-8 bytes; a parameter given twice is refused. -/
namespace DatasetProposals
namespace Http

def splitBytes (sep : UInt8) : List UInt8 → List (List UInt8)
  | [] => [[]]
  | b :: rest =>
    if b == sep then [] :: splitBytes sep rest
    else
      match splitBytes sep rest with
      | part :: parts => (b :: part) :: parts
      | [] => [[b]]

def splitFirst (sep : UInt8) : List UInt8 → List UInt8 × List UInt8
  | [] => ([], [])
  | b :: rest =>
    if b == sep then ([], rest)
    else
      let (before, after) := splitFirst sep rest
      (b :: before, after)

def hexDigitValue? (b : UInt8) : Option Nat :=
  let n := b.toNat
  if 48 ≤ n && n ≤ 57 then some (n - 48)
  else if 65 ≤ n && n ≤ 70 then some (n - 55)
  else if 97 ≤ n && n ≤ 102 then some (n - 87)
  else none

def plusToSpace (bs : List UInt8) : List UInt8 := bs.map (fun b => if b == 43 then 32 else b)

def percentDecode : List UInt8 → List UInt8
  | [] => []
  | 37 :: rest@(h :: l :: more) =>
    match hexDigitValue? h, hexDigitValue? l with
    | some a, some b => UInt8.ofNat (a * 16 + b) :: percentDecode more
    | _, _ => 37 :: percentDecode rest
  | b :: rest => b :: percentDecode rest

/-! UTF-8 read with replacement. -/

def replacementChar : Char := Char.ofNat 0xFFFD

def sequenceShape (b : Nat) : Option (Nat × List (Nat × Nat)) :=
  let tail := (0x80, 0xBF)
  if 0xC2 ≤ b && b ≤ 0xDF then some (b % 32, [tail])
  else if b == 0xE0 then some (b % 16, [(0xA0, 0xBF), tail])
  else if b == 0xED then some (b % 16, [(0x80, 0x9F), tail])
  else if 0xE1 ≤ b && b ≤ 0xEF then some (b % 16, [tail, tail])
  else if b == 0xF0 then some (b % 8, [(0x90, 0xBF), tail, tail])
  else if b == 0xF4 then some (b % 8, [(0x80, 0x8F), tail, tail])
  else if 0xF1 ≤ b && b ≤ 0xF3 then some (b % 8, [tail, tail, tail])
  else none

def continueSequence : List (Nat × Nat) → Nat → List UInt8 → Option Nat × List UInt8
  | [], acc, bs => (some acc, bs)
  | _ :: _, _, [] => (none, [])
  | (lo, hi) :: ranges, acc, b :: bs =>
    if lo ≤ b.toNat && b.toNat ≤ hi then continueSequence ranges (acc * 64 + b.toNat % 64) bs
    else (none, b :: bs)

theorem continueSequence_length_le (ranges : List (Nat × Nat)) (acc : Nat) (bs : List UInt8) :
    (continueSequence ranges acc bs).2.length ≤ bs.length := by
  induction ranges generalizing acc bs with
  | nil => simp [continueSequence]
  | cons r ranges ih =>
    cases bs with
    | nil => simp [continueSequence]
    | cons b bs =>
      obtain ⟨lo, hi⟩ := r
      simp only [continueSequence]
      split
      · exact Nat.le_succ_of_le (ih _ _)
      · simp

def decodeUtf8Lossy : List UInt8 → List Char
  | [] => []
  | b :: rest =>
    if b.toNat < 0x80 then Char.ofNat b.toNat :: decodeUtf8Lossy rest
    else
      match sequenceShape b.toNat with
      | none => replacementChar :: decodeUtf8Lossy rest
      | some (bits, ranges) =>
        let step := continueSequence ranges bits rest
        (match step.1 with
         | some code => Char.ofNat code
         | none => replacementChar) :: decodeUtf8Lossy step.2
termination_by bs => bs.length
decreasing_by
  all_goals simp only [List.length_cons]
  · exact Nat.lt_succ_self _
  · exact Nat.lt_succ_self _
  · exact Nat.lt_succ_of_le (continueSequence_length_le _ _ _)

def decodeComponent (bs : List UInt8) : String :=
  String.ofList (decodeUtf8Lossy (percentDecode (plusToSpace bs)))

def formPairs (s : String) : List (String × String) :=
  ((splitBytes 38 s.toUTF8.toList).filter (!·.isEmpty)).map fun part =>
    let (name, value) := splitFirst 61 part
    (decodeComponent name, decodeComponent value)

/-- Why a query could not be read. -/
inductive QueryError where
  | duplicateField (name : String)
  deriving Repr, BEq, Inhabited

def QueryError.message : QueryError → String
  | .duplicateField name => "Failed to deserialize query string: duplicate field `" ++ name ++ "`"

def queryParam (query : Option String) (name : String) : Except QueryError (Option String) :=
  match ((formPairs (query.getD "")).filter (·.1 == name)).map (·.2) with
  | [] => .ok none
  | [v] => .ok (some v)
  | _ => .error (.duplicateField name)

end Http
end DatasetProposals
