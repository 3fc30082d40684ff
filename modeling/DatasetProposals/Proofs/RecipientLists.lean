import DatasetProposals.Notify.Recipients
import Mathlib.Data.List.Induction
import Mathlib.Data.List.DropRight
/-! Recipient lists, read position by position. Main statement:
`normalized_recipients_are_first_spellings`. -/
namespace DatasetProposals

/-! Matching up to ASCII case is equality of the folded forms, hence an equivalence. -/

theorem sameIgnoringAsciiCase_iff {a b : String} :
    sameIgnoringAsciiCase a b = true ↔ asciiLower a = asciiLower b := by
  simp [sameIgnoringAsciiCase]

theorem sameIgnoringAsciiCase_trans {a b c : String} (ab : sameIgnoringAsciiCase a b = true)
    (bc : sameIgnoringAsciiCase b c = true) : sameIgnoringAsciiCase a c = true :=
  sameIgnoringAsciiCase_iff.mpr
    ((sameIgnoringAsciiCase_iff.mp ab).trans (sameIgnoringAsciiCase_iff.mp bc))

theorem eq_empty_of_same_empty {t : String} (same : sameIgnoringAsciiCase "" t = true) : t = "" := by
  have lengths := congrArg String.length (sameIgnoringAsciiCase_iff.mp same)
  simp only [asciiLower, String.length_map] at lengths
  exact String.length_eq_zero_iff.mp lengths.symm

namespace Text

theorem trim_trim (s : String) : trim (trim s) = trim s := by
  -- `trim s` is `r.reverse`, where `m` drops the leading blanks and `r` the trailing ones of `m`
  set m := s.toList.dropWhile isBlank with hm
  set r := m.reverse.dropWhile isBlank with hr
  have prefixOf : r.reverse <+: m := by
    refine ⟨(m.reverse.takeWhile isBlank).reverse, ?_⟩
    rw [← List.reverse_append, List.takeWhile_append_dropWhile, List.reverse_reverse]
  have front : r.reverse.dropWhile isBlank = r.reverse := by
    rw [List.dropWhile_eq_self_iff]
    intro pos
    rw [prefixOf.getElem pos]
    exact List.dropWhile_get_zero_not isBlank s.toList (Nat.lt_of_lt_of_le pos prefixOf.length_le)
  have back : r.dropWhile isBlank = r := List.dropWhile_idempotent isBlank m.reverse
  simp only [trim, String.toList_ofList]
  rw [← hm, ← hr, front, List.reverse_reverse, back]

end Text

/-! Normalisation one address at a time. -/

def admits (out : List String) (t : String) : Bool :=
  !t.isEmpty && !out.any (sameIgnoringAsciiCase · t)

theorem normalizeRecipients_go_append_singleton (as kept : List String) (a : String) :
    normalizeRecipients.go (as ++ [a]) kept =
      normalizeRecipients.go as kept ++
        (if admits (normalizeRecipients.go as kept) (Text.trim a) then [Text.trim a] else []) := by
  induction as generalizing kept with
  | nil =>
    simp only [List.nil_append, normalizeRecipients.go, admits, List.any_reverse, ← Bool.not_or]
    cases (Text.trim a).isEmpty || kept.any (sameIgnoringAsciiCase · (Text.trim a)) <;> simp
  | cons b bs ih =>
    simp only [List.cons_append, normalizeRecipients.go]
    split <;> exact ih _

theorem normalizeRecipients_append_singleton (as : List String) (a : String) :
    normalizeRecipients (as ++ [a]) = normalizeRecipients as ++
      (if admits (normalizeRecipients as) (Text.trim a) then [Text.trim a] else []) :=
  normalizeRecipients_go_append_singleton as [] a

theorem sameIgnoringAsciiCase_refl (a : String) : sameIgnoringAsciiCase a a = true :=
  sameIgnoringAsciiCase_iff.mpr rfl

theorem admits_iff {out : List String} {t : String} :
    admits out t = true ↔ t ≠ "" ∧ ∀ x ∈ out, sameIgnoringAsciiCase x t = false := by
  simp [admits]

theorem mem_normalizeRecipients {as : List String} {x : String} (kept : x ∈ normalizeRecipients as) :
    ∃ a ∈ as, x = Text.trim a := by
  induction as using List.reverseRecOn with
  | nil => simp [normalizeRecipients, normalizeRecipients.go] at kept
  | append_singleton as a ih =>
    rw [normalizeRecipients_append_singleton] at kept
    rcases List.mem_append.mp kept with earlier | last
    · obtain ⟨b, mem, rfl⟩ := ih earlier
      exact ⟨b, List.mem_append_left _ mem, rfl⟩
    · split at last
      · exact ⟨a, by simp, List.eq_of_mem_singleton last⟩
      · cases last

theorem ne_empty_of_mem_normalizeRecipients {as : List String} {x : String}
    (kept : x ∈ normalizeRecipients as) : x ≠ "" := by
  induction as using List.reverseRecOn with
  | nil => simp [normalizeRecipients, normalizeRecipients.go] at kept
  | append_singleton as a ih =>
    rw [normalizeRecipients_append_singleton] at kept
    rcases List.mem_append.mp kept with earlier | last
    · exact ih earlier
    · split at last
      · next admitted => exact List.eq_of_mem_singleton last ▸ (admits_iff.mp admitted).1
      · cases last

theorem normalizeRecipients_pairwise (as : List String) :
    (normalizeRecipients as).Pairwise (fun x y => sameIgnoringAsciiCase x y = false) := by
  induction as using List.reverseRecOn with
  | nil => simp [normalizeRecipients, normalizeRecipients.go]
  | append_singleton as a ih =>
    rw [normalizeRecipients_append_singleton]
    split
    · next admitted =>
      refine List.pairwise_append.mpr ⟨ih, List.pairwise_singleton _ _, fun x kept y last => ?_⟩
      rw [List.eq_of_mem_singleton last]
      exact (admits_iff.mp admitted).2 x kept
    · simpa using ih

theorem exists_same_of_mem {as : List String} {a : String} (mem : a ∈ as)
    (nonblank : Text.trim a ≠ "") :
    ∃ x ∈ normalizeRecipients as, sameIgnoringAsciiCase x (Text.trim a) = true := by
  induction as using List.reverseRecOn with
  | nil => cases mem
  | append_singleton as b ih =>
    rw [normalizeRecipients_append_singleton]
    rcases List.mem_append.mp mem with earlier | last
    · obtain ⟨x, kept, same⟩ := ih earlier
      exact ⟨x, List.mem_append_left _ kept, same⟩
    · rw [List.eq_of_mem_singleton last] at nonblank ⊢
      split
      · exact ⟨Text.trim b, by simp, sameIgnoringAsciiCase_refl _⟩
      · next refused =>
        -- refused though not blank: an earlier kept address matches
        have : ∃ x ∈ normalizeRecipients as, sameIgnoringAsciiCase x (Text.trim b) = true := by
          simpa [admits_iff, nonblank] using refused
        obtain ⟨x, kept, same⟩ := this
        exact ⟨x, List.mem_append_left _ kept, same⟩

theorem admits_normalizeRecipients (as : List String) (t : String) :
    admits (normalizeRecipients as) t = admits (as.map Text.trim) t := by
  by_cases blank : t = ""
  · subst blank
    rfl
  rw [Bool.eq_iff_iff, admits_iff, admits_iff]
  refine and_congr_right fun _ => ?_
  constructor
  · intro apart u mem
    obtain ⟨a, input, rfl⟩ := List.mem_map.mp mem
    refine Bool.eq_false_iff.mpr fun same => ?_
    have nonblank : Text.trim a ≠ "" := by
      intro empty
      rw [empty] at same
      exact blank (eq_empty_of_same_empty same)
    obtain ⟨x, kept, matched⟩ := exists_same_of_mem input nonblank
    have := apart x kept
    rw [sameIgnoringAsciiCase_trans matched same] at this
    cases this
  · intro apart x kept
    obtain ⟨a, mem, rfl⟩ := mem_normalizeRecipients kept
    exact apart _ (List.mem_map_of_mem mem)

/-! The declarative reading, position by position. -/

/-- The trimmed address `t` at position `i` of the trimmed addresses `ts` is the first of its
spelling: it is not blank, and no earlier address matches it up to ASCII case. -/
def FirstSpelling (ts : List String) (i : Nat) (t : String) : Prop :=
  t ≠ "" ∧ ∀ u ∈ ts.take i, sameIgnoringAsciiCase u t = false

instance (ts : List String) (i : Nat) (t : String) : Decidable (FirstSpelling ts i t) :=
  inferInstanceAs (Decidable (_ ∧ _))

def firstSpellings (ts : List String) : List String :=
  (ts.zipIdx.filter fun (t, i) => decide (FirstSpelling ts i t)).map Prod.fst

theorem firstSpellings_append_singleton (ts : List String) (t : String) :
    firstSpellings (ts ++ [t]) = firstSpellings ts ++ (if admits ts t then [t] else []) := by
  unfold firstSpellings
  rw [List.zipIdx_append, List.filter_append, List.map_append]
  congr 1
  · -- an earlier position sees only earlier addresses, so appending `t` does not change it
    refine congrArg _ (List.filter_congr fun p mem => decide_eq_decide.mpr ?_)
    have before : p.2 < ts.length := by simpa using (List.mem_zipIdx mem).2.1
    unfold FirstSpelling
    rw [List.take_append_of_le_length (Nat.le_of_lt before)]
  · have whole : (ts ++ [t]).take ts.length = ts := by simp
    by_cases admitted : admits ts t = true
    · have first : FirstSpelling (ts ++ [t]) ts.length t := by
        rw [FirstSpelling, whole]
        exact admits_iff.mp admitted
      simp [first, admitted]
    · have later : ¬ FirstSpelling (ts ++ [t]) ts.length t := by
        rw [FirstSpelling, whole, ← admits_iff]
        exact admitted
      simp [later, admitted]

theorem normalizeRecipients_eq_firstSpellings (as : List String) :
    normalizeRecipients as = firstSpellings (as.map Text.trim) := by
  induction as using List.reverseRecOn with
  | nil => rfl
  | append_singleton as a ih =>
    rw [normalizeRecipients_append_singleton, List.map_append, List.map_singleton,
      firstSpellings_append_singleton, admits_normalizeRecipients, ← ih]

theorem normalizeRecipients_of_normal {xs : List String} (trimmed : ∀ x ∈ xs, Text.trim x = x)
    (nonblank : ∀ x ∈ xs, x ≠ "")
    (apart : xs.Pairwise (fun x y => sameIgnoringAsciiCase x y = false)) :
    normalizeRecipients xs = xs := by
  induction xs using List.reverseRecOn with
  | nil => rfl
  | append_singleton xs x ih =>
    have last : x ∈ xs ++ [x] := by simp
    obtain ⟨apartBefore, -, apartLast⟩ := List.pairwise_append.mp apart
    have admitted : admits xs x = true :=
      admits_iff.mpr ⟨nonblank x last, fun y mem => apartLast y mem x (by simp)⟩
    rw [normalizeRecipients_append_singleton, trimmed x last,
      ih (fun y mem => trimmed y (by simp [mem])) (fun y mem => nonblank y (by simp [mem]))
        apartBefore, admitted]
    rfl

theorem trim_of_mem_normalizeRecipients {as : List String} {x : String}
    (kept : x ∈ normalizeRecipients as) : Text.trim x = x := by
  obtain ⟨a, -, rfl⟩ := mem_normalizeRecipients kept
  exact Text.trim_trim a

/-- Recipient normalisation keeps, in input order, the trimmed form of exactly the addresses
that are not blank and that no earlier address matches up to ASCII case once trimmed. So no kept
address is blank, no two kept addresses match, every address that is not blank matches a kept
one, and normalising a normalised list changes nothing. -/
theorem normalized_recipients_are_first_spellings (as : List String) :
    normalizeRecipients as = firstSpellings (as.map Text.trim) ∧
    (∀ x ∈ normalizeRecipients as, x ≠ "") ∧
    (normalizeRecipients as).Pairwise (fun x y => sameIgnoringAsciiCase x y = false) ∧
    (∀ a ∈ as, Text.trim a ≠ "" →
      ∃ x ∈ normalizeRecipients as, sameIgnoringAsciiCase x (Text.trim a) = true) ∧
    normalizeRecipients (normalizeRecipients as) = normalizeRecipients as :=
  ⟨normalizeRecipients_eq_firstSpellings as, fun _ => ne_empty_of_mem_normalizeRecipients,
    normalizeRecipients_pairwise as, fun _ => exists_same_of_mem,
    normalizeRecipients_of_normal (fun _ => trim_of_mem_normalizeRecipients)
      (fun _ => ne_empty_of_mem_normalizeRecipients) (normalizeRecipients_pairwise as)⟩

end DatasetProposals
