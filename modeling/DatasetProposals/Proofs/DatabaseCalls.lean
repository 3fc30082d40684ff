import Mathlib.Logic.Function.Basic
import DatasetProposals.Proofs.StoredForms
import DatasetProposals.Store.Memory
/-! What the document store assumes of its database (`DocumentDatabase.Lawful`), and the store's
calls stated through the database's commands. -/
namespace DatasetProposals
open Json

abbrev Collections (σ : Type) := σ → String → List (List (String × Json))

/-- A database that keeps the store's assumptions, its collections seen through `docs`. It applies
each command at once to the collection the command names and to no other: `find` answers the
documents equal on every filter field, in order; `insert` of a proposal's document refuses a
repeated `(UserId, NodeId)` with the duplicate-key write error and otherwise appends the
document; `replaceOne` replaces the first match and answers how many matched; `deleteOne`
removes the first match; `ping` and `createIndexes` succeed. -/
structure DocumentDatabase.Lawful {σ : Type} (db : DocumentDatabase σ) (docs : Collections σ) :
    Prop where
  find : ∀ s c F limit, ∃ s', db.find s c F limit =
      (.ok (limit.elim ((docs s c).filter (matchesFilter F)) ((docs s c).filter (matchesFilter F)).take),
        s') ∧ docs s' = docs s
  insertFresh : ∀ s (p : Proposal),
    (docs s proposalCollection).any (matchesFilter (Documents.keyFilter p.userId p.nodeId)) = false →
    ∃ s', db.insert s proposalCollection p.stored = (.ok (), s') ∧
      docs s' = Function.update (docs s) proposalCollection (docs s proposalCollection ++ [p.stored])
  insertDuplicate : ∀ s (p : Proposal),
    (docs s proposalCollection).any (matchesFilter (Documents.keyFilter p.userId p.nodeId)) = true →
    ∃ f s', db.insert s proposalCollection p.stored = (.error f, s') ∧ f.isDuplicateKey = true ∧
      docs s' = docs s
  replaceUnmatched : ∀ s c F r, (docs s c).findIdx? (matchesFilter F) = none →
    ∃ s', db.replaceOne s c F r = (.ok 0, s') ∧ docs s' = docs s
  replaceMatched : ∀ s c F r i, (docs s c).findIdx? (matchesFilter F) = some i →
    ∃ s', db.replaceOne s c F r = (.ok 1, s') ∧
      docs s' = Function.update (docs s) c ((docs s c).set i r)
  deleteUnmatched : ∀ s c F, (docs s c).findIdx? (matchesFilter F) = none →
    ∃ s', db.deleteOne s c F = (.ok (), s') ∧ docs s' = docs s
  deleteMatched : ∀ s c F i, (docs s c).findIdx? (matchesFilter F) = some i →
    ∃ s', db.deleteOne s c F = (.ok (), s') ∧
      docs s' = Function.update (docs s) c ((docs s c).eraseIdx i)
  ping : ∀ s, ∃ s', db.ping s = (.ok (), s') ∧ docs s' = docs s
  createIndexes : ∀ s c ixs, ∃ s', db.createIndexes s c ixs = (.ok (), s') ∧ docs s' = docs s

theorem mapM_read {β : Type} {stored : β → List (String × Json)} {l : List β} {d : Json.Decoder β}
    (reads : ∀ x ∈ l, Documents.read d (stored x) = .ok x) :
    (l.map stored).mapM (Documents.read d) = .ok l := by
  induction l with
  | nil => rfl
  | cons x rest ih =>
    rw [List.map_cons, List.mapM_cons, reads x List.mem_cons_self,
      ih fun y mem => reads y (List.mem_cons_of_mem x mem)]
    rfl

namespace Documents
variable {σ α : Type} (db : DocumentDatabase σ) (s : σ)

theorem run_modifyGet_bind {β γ : Type} (f : σ → β × σ) (k : β → DocumentCall σ γ) :
    (modifyGet f >>= k).run s = (k (f s).1).run (f s).2 := rfl

theorem run_bind {β γ : Type} (x : DocumentCall σ β) (k : β → DocumentCall σ γ) :
    (x >>= k).run s = (k (x.run s).1).run (x.run s).2 := rfl

theorem findAll_run (c : String) (F : List (String × Json)) (d : Decoder α) :
    (findAll db c F d).run s = match db.find s c F none with
      | (.error f, s') => (.error (backendIn ("find in " ++ c) f), s')
      | (.ok docs, s') =>
        ((docs.mapM (read d)).mapError fun m => .backend ("read from " ++ c ++ ": " ++ m), s') := by
  simp only [findAll]
  rw [run_modifyGet_bind]
  rcases db.find s c F none with ⟨_ | _, s'⟩ <;> rfl

theorem findSingle_run (c : String) (F : List (String × Json)) (kind key : String) (d : Decoder α) :
    (findSingle db c F kind key d).run s =
      (((findAll db c F d).run s).1.bind (MemoryStore.single kind key), ((findAll db c F d).run s).2) := by
  simp only [findSingle]
  rw [run_bind]
  rcases (findAll db c F d).run s with ⟨_ | l, s'⟩
  · rfl
  · match l with
    | [] => rfl
    | [a] => rfl
    | _ :: _ :: _ => rfl

theorem proposal_run (u : Int) (n : String) :
    (proposal db u n).run s = match db.find s proposalCollection (keyFilter u n) (some 1) with
      | (.error f, s') => (.error (backendIn "get dataset proposal" f), s')
      | (.ok [], s') => (.error (StorageError.proposalNotFound u n), s')
      | (.ok (doc :: _), s') =>
        ((read Proposal.storedDecoder doc).mapError fun m => .backend ("get dataset proposal: " ++ m), s') := by
  simp only [proposal]
  rw [run_modifyGet_bind]
  rcases db.find s proposalCollection (keyFilter u n) (some 1) with ⟨_ | _ | _, s'⟩ <;> rfl

theorem create_run (p : Proposal) :
    (create db p).run s = match db.insert s proposalCollection p.stored with
      | (.ok (), s') => (.ok (), s')
      | (.error f, s') =>
        (if f.isDuplicateKey then .error (.alreadyExists p.userId p.nodeId)
          else .error (backendIn "create dataset proposal" f), s') := by
  simp only [create, Proposal.members_toJson]
  rw [run_modifyGet_bind]
  rcases db.insert s proposalCollection p.stored with ⟨_ | _, s'⟩
  · dsimp only
    split <;> rfl
  · rfl

theorem update_run (p : Proposal) :
    (update db p).run s = match db.replaceOne s proposalCollection (keyFilter p.userId p.nodeId) p.stored with
      | (.error f, s') => (.error (backendIn "update dataset proposal" f), s')
      | (.ok 0, s') => (.error (StorageError.proposalNotFound p.userId p.nodeId), s')
      | (.ok _, s') => (.ok (), s') := by
  simp only [update, Proposal.members_toJson]
  rw [run_modifyGet_bind]
  rcases db.replaceOne s proposalCollection (keyFilter p.userId p.nodeId) p.stored with
    ⟨_ | _ | _, s'⟩ <;> rfl

theorem updateIf_run_matched (p : Proposal) (expected : Status) {s' : σ}
    (replaced : db.replaceOne s proposalCollection
      (keyFilter p.userId p.nodeId ++ [("ProposalStatus", .str expected.name)]) p.stored = (.ok 1, s')) :
    (updateIf db p expected).run s = (.ok (), s') := by
  simp only [updateIf, Proposal.members_toJson]
  rw [run_modifyGet_bind]
  simp only [replaced]
  rfl

theorem updateIf_run_unmatched (p : Proposal) (expected : Status) {n : Nat} {s' : σ}
    (replaced : db.replaceOne s proposalCollection
      (keyFilter p.userId p.nodeId ++ [("ProposalStatus", .str expected.name)]) p.stored = (.ok n, s'))
    (unmatched : n ≠ 1) :
    (updateIf db p expected).run s = match (proposal db p.userId p.nodeId).run s' with
      | (.error e, s'') => (.error e, s'')
      | (.ok _, s'') => (.error (.conflict p.userId p.nodeId expected), s'') := by
  simp only [updateIf, Proposal.members_toJson]
  rw [run_modifyGet_bind]
  simp only [replaced]
  rcases n with _ | _ | n
  case succ.zero => exact absurd rfl unmatched
  all_goals
    simp only [run_bind]
    rcases (proposal db p.userId p.nodeId).run s' with ⟨_ | _, s''⟩ <;> rfl

theorem delete_run (k : ProposalKey) :
    (delete db k).run s = match db.deleteOne s proposalCollection (keyFilter k.userId k.nodeId) with
      | (.error f, s') => (.error (backendIn "delete dataset proposal" f), s')
      | (.ok (), s') => (.ok (), s') := by
  simp only [delete]
  rw [run_modifyGet_bind]
  rcases db.deleteOne s proposalCollection (keyFilter k.userId k.nodeId) with ⟨_ | _, s'⟩ <;> rfl

/-! On a lawful database. -/

section Lawful
variable {db} {docs : Collections σ} (lawful : db.Lawful docs)
include lawful

theorem findAll_stored {β : Type} {stored : β → List (String × Json)} {l : List β} {c : String}
    (same : docs s c = l.map stored) {d : Json.Decoder β}
    (reads : ∀ x ∈ l, Documents.read d (stored x) = .ok x) (F : List (String × Json)) :
    ∃ s', (findAll db c F d).run s = (.ok (l.filter (matchesFilter F ∘ stored)), s') ∧ docs s' = docs s := by
  obtain ⟨s', found, kept⟩ := lawful.find s c F none
  refine ⟨s', ?_, kept⟩
  rw [findAll_run, found]
  dsimp only [Option.elim]
  rw [same, List.filter_map, mapM_read fun x mem => reads x (List.mem_of_mem_filter mem)]
  rfl

theorem findAll_stored_all {β : Type} {stored : β → List (String × Json)} {l : List β} {c : String}
    (same : docs s c = l.map stored) {d : Json.Decoder β}
    (reads : ∀ x ∈ l, Documents.read d (stored x) = .ok x) :
    ∃ s', (findAll db c [] d).run s = (.ok l, s') ∧ docs s' = docs s := by
  have everything : l.filter (matchesFilter [] ∘ stored) = l := List.filter_eq_self.mpr fun _ _ => rfl
  simpa only [everything] using findAll_stored s lawful same reads []

theorem connect_run : ∃ s', (connect db).run s = (.ok (), s') ∧ docs s' = docs s := by
  obtain ⟨s₁, pinged, kept₁⟩ := lawful.ping s
  obtain ⟨s₂, indexed, kept₂⟩ := lawful.createIndexes s₁ proposalCollection proposalIndexes
  obtain ⟨s₃, indexed', kept₃⟩ :=
    lawful.createIndexes s₂ repositoryCollection [⟨[("OrganizationNodeId", 1)], false⟩]
  refine ⟨s₃, ?_, kept₃.trans (kept₂.trans kept₁)⟩
  simp only [connect]
  rw [run_modifyGet_bind, pinged]
  dsimp only
  rw [run_modifyGet_bind, indexed]
  dsimp only
  rw [run_modifyGet_bind, indexed']
  rfl

end Lawful

end Documents

end DatasetProposals
