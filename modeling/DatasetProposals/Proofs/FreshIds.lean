import DatasetProposals.Proofs.MemoryWorld
/-! Fresh identifiers never repeat: each candidate uuid reads back as its number, and every
identifier drawn is numbered past all earlier ones. -/
namespace DatasetProposals
namespace World

def hexDigitValue (c : Char) : Nat :=
  ['0', '1', '2', '3', '4', '5', '6', '7', '8', '9', 'a', 'b', 'c', 'd', 'e', 'f'].idxOf c

def hexValue (digits : List Char) : Nat :=
  digits.foldl (fun n c => 16 * n + hexDigitValue c) 0

theorem hexDigitValue_digitChar {d : Nat} (small : d < 16) : hexDigitValue d.digitChar = d := by
  have table : ∀ d < 16, hexDigitValue d.digitChar = d := by decide
  exact table d small

theorem hexValue_append_singleton (digits : List Char) (c : Char) :
    hexValue (digits ++ [c]) = 16 * hexValue digits + hexDigitValue c := by
  simp [hexValue, List.foldl_append]

theorem hexValue_zeros_append (k : Nat) (digits : List Char) :
    hexValue (List.replicate k '0' ++ digits) = hexValue digits := by
  have zeros : ∀ k, (List.replicate k '0').foldl (fun n c => 16 * n + hexDigitValue c) 0 = 0 := by
    intro k
    induction k with
    | zero => rfl
    | succ k ih => rw [List.replicate_succ, List.foldl_cons]; exact ih
  simp only [hexValue, List.foldl_append, zeros]

theorem hexValue_toDigits (n : Nat) : hexValue (Nat.toDigits 16 n) = n := by
  induction n using Nat.strongRecOn with
  | ind n ih =>
    rw [Nat.toDigits_eq_if (by decide)]
    split
    · next small => simp [hexValue, hexDigitValue_digitChar small]
    · next large =>
      -- the last digit is `n % 16`, the ones before it are the digits of `n / 16`
      rw [hexValue_append_singleton, ih (n / 16) (by omega),
        hexDigitValue_digitChar (Nat.mod_lt n (by decide))]
      omega

theorem hexValue_hex12 (n : Nat) : hexValue (hex12 n).toList = n := by
  simp only [hex12, String.toList_ofList, hexValue_zeros_append, hexValue_toDigits]

theorem candidateUuid_injective {m n : Nat} (same : candidateUuid m = candidateUuid n) : m = n := by
  have digits : hex12 m = hex12 n := (String.append_right_inj _).mp same
  rw [← hexValue_hex12 m, ← hexValue_hex12 n, digits]

theorem prefixed_candidate_inj (pre : String) {m n : Nat} :
    pre ++ candidateUuid m = pre ++ candidateUuid n ↔ m = n :=
  ⟨fun same => candidateUuid_injective ((String.append_right_inj pre).mp same),
    fun same => same ▸ rfl⟩

end World
end DatasetProposals
