import DatasetProposals.Proofs.AcceptanceSteps
/-! The repository listing joins the repositories and the survey questions by question id. Main
statement: `repository_listing_joins_questions`. -/
namespace DatasetProposals
namespace Service

def lastQuestion? (qs : List QuestionRecord) (id : Int) : Option QuestionRecord :=
  qs.reverse.find? (·.id == id)

def joinedQuestions (qs : List QuestionRecord) (ids : List Int) : List QuestionDto :=
  ids.filterMap fun id => (lastQuestion? qs id).map QuestionDto.ofRecord

example : joinedQuestions [⟨1, "Purpose?", "text"⟩, ⟨2, "Size?", "number"⟩, ⟨1, "Aim?", "text"⟩]
    [1, 99, 2, 1] = [⟨1, "Aim?", "text"⟩, ⟨2, "Size?", "number"⟩, ⟨1, "Aim?", "text"⟩] := rfl

def listedRepository (s : Settings) (now : Int) (qs : List QuestionRecord) (r : RepositoryRecord) :
    RepositoryDto where
  organizationNodeId := r.organizationNodeId
  name := r.name
  displayName := r.displayName
  repositoryId := r.repositoryId
  kind := r.kind
  description := r.description
  url := r.url
  overviewDocument := s.signer.presign r.overviewDocument.bucket r.overviewDocument.key s.overviewExpiry now
  logoFile := s.signer.presign r.logoFile.bucket r.logoFile.key s.logoExpiry now
  questions := joinedQuestions qs r.questions
  createdAt := r.createdAt
  updatedAt := r.updatedAt

def listingOperation : String := "get publishing repositories"

/-! The index of questions. -/

private def indexStep (acc : List (Int × QuestionDto)) (q : QuestionRecord) : List (Int × QuestionDto) :=
  (q.id, QuestionDto.ofRecord q) :: acc.filter (·.1 != q.id)

private theorem find?_indexStep (acc : List (Int × QuestionDto)) (q : QuestionRecord) (id : Int) :
    (indexStep acc q).find? (·.1 == id) =
      if q.id = id then some (q.id, QuestionDto.ofRecord q) else acc.find? (·.1 == id) := by
  by_cases same : q.id = id
  · simp [indexStep, same]
  · -- the entries dropped have id `q.id`, which the lookup passes over anyway
    have kept : (acc.filter (·.1 != q.id)).find? (·.1 == id) = acc.find? (·.1 == id) := by
      rw [List.find?_filter]
      congr 1
      funext entry
      by_cases hit : entry.1 = id
      · simp [hit, Ne.symm same]
      · simp [hit]
    simp [indexStep, same, kept]

private theorem find?_foldl_indexStep (qs : List QuestionRecord) (acc : List (Int × QuestionDto))
    (id : Int) :
    (qs.foldl indexStep acc).find? (·.1 == id) =
      ((lastQuestion? qs id).map fun q => (q.id, QuestionDto.ofRecord q)).or (acc.find? (·.1 == id)) := by
  induction qs generalizing acc with
  | nil => rfl
  | cons q qs ih =>
    rw [List.foldl_cons, ih, find?_indexStep]
    have last : lastQuestion? (q :: qs) id =
        (lastQuestion? qs id).or (if q.id = id then some q else none) := by
      by_cases same : q.id = id <;> simp [lastQuestion?, List.find?_append, same]
    rw [last]
    cases lastQuestion? qs id with
    | some found => rfl
    | none => by_cases same : q.id = id <;> simp [same]

theorem find?_questionIndex (qs : List QuestionRecord) (id : Int) :
    (questionIndex qs).find? (·.1 == id) =
      (lastQuestion? qs id).map fun q => (q.id, QuestionDto.ofRecord q) := by
  have built : questionIndex qs = qs.foldl indexStep [] := rfl
  rw [built, find?_foldl_indexStep]
  cases lastQuestion? qs id <;> rfl

theorem repositoryDto_questionIndex (s : Settings) (now : Int) (qs : List QuestionRecord)
    (r : RepositoryRecord) : repositoryDto s now (questionIndex qs) r = listedRepository s now qs r := by
  have joined : r.questions.filterMap (fun id => ((questionIndex qs).find? (·.1 == id)).map (·.2)) =
      joinedQuestions qs r.questions := by
    unfold joinedQuestions
    congr 1
    funext id
    rw [find?_questionIndex, Option.map_map]
    rfl
  simp only [repositoryDto, listedRepository, joined]

/-! The fetches. A rule of the fault plan changes what a list read answers, never the world
the read leaves; and no store call touches the clock or the settings. -/

private theorem storeCall_clock_settings (onServer : DocumentCall DocumentServer (Except StorageError α))
    (inMemory : MemoryStore → Except StorageError (α × MemoryStore)) (w : World) :
    ((World.storeCall onServer inMemory).run w).2.clock = w.clock ∧
      ((World.storeCall onServer inMemory).run w).2.settings = w.settings := by
  simp only [World.storeCall, StateT.run_bind, StateT.run_get, World.act_bind_run]
  repeat' split
  all_goals exact ⟨rfl, rfl⟩

private theorem faultyListRead_clock_settings (m : StoreMethod)
    (onServer : DocumentCall DocumentServer (Except StorageError (List α)))
    (inMemory : MemoryStore → Except StorageError (List α × MemoryStore)) (mangle : α → α) (extra : List α)
    (w : World) :
    ((World.faultyListRead m (World.storeCall onServer inMemory) mangle extra).run w).2.clock = w.clock ∧
      ((World.faultyListRead m (World.storeCall onServer inMemory) mangle extra).run w).2.settings =
        w.settings := by
  -- whichever rule hits, the read leaves the world its store call leaves
  have world : ((World.faultyListRead m (World.storeCall onServer inMemory) mangle extra).run w).2 =
      ((World.storeCall onServer inMemory).run (w.countStore m)).2 := by
    simp only [World.faultyListRead, World.storeHit, StateT.run_bind, StateT.run_modifyGet, World.act_bind_run]
    repeat' split
    all_goals rfl
  rw [world]
  exact storeCall_clock_settings onServer inMemory (w.countStore m)

theorem repositories_clock_settings (w : World) :
    (Op.repositories.outcome w).2.clock = w.clock ∧ (Op.repositories.outcome w).2.settings = w.settings :=
  faultyListRead_clock_settings _ _ _ _ _ w

theorem questions_clock_settings (w : World) :
    (Op.questions.outcome w).2.clock = w.clock ∧ (Op.questions.outcome w).2.settings = w.settings :=
  faultyListRead_clock_settings _ _ _ _ _ w

/-! The listing, fetch by fetch. -/

theorem outcome_viaStore_repositories (op : String) (w : World) :
    (viaStore op (Script.op .repositories)).run.outcome w =
      (Except.mapError (ServiceError.ofStorage op) (Op.repositories.outcome w).1, (Op.repositories.outcome w).2) :=
  ServiceAct.outcome_mapError (Script.op .repositories) _ w

theorem outcome_viaStore_questions (op : String) (w : World) :
    (viaStore op (Script.op .questions)).run.outcome w =
      (Except.mapError (ServiceError.ofStorage op) (Op.questions.outcome w).1, (Op.questions.outcome w).2) :=
  ServiceAct.outcome_mapError (Script.op .questions) _ w

section Listing
variable {w w₁ w₂ : World}

theorem listing_of_repositories_failed {e : StorageError} (failed : Op.repositories.outcome w = (.error e, w₁)) :
    publishingRepositories.run.outcome w = (.error (ServiceError.ofStorage listingOperation e), w₁) := by
  rw [publishingRepositories, ServiceAct.outcome_bind, outcome_viaStore_repositories, failed]
  rfl

theorem listing_of_questions_failed {repos : List RepositoryRecord} {e : StorageError}
    (fetched : Op.repositories.outcome w = (.ok repos, w₁)) (failed : Op.questions.outcome w₁ = (.error e, w₂)) :
    publishingRepositories.run.outcome w = (.error (ServiceError.ofStorage listingOperation e), w₂) := by
  rw [publishingRepositories, ServiceAct.outcome_bind, outcome_viaStore_repositories, fetched]
  dsimp only [Except.mapError]
  rw [ServiceAct.outcome_bind, outcome_viaStore_questions, failed]
  rfl

theorem listing_of_fetched {repos : List RepositoryRecord} {qs : List QuestionRecord}
    (fetched : Op.repositories.outcome w = (.ok repos, w₁)) (asked : Op.questions.outcome w₁ = (.ok qs, w₂)) :
    publishingRepositories.run.outcome w = (.ok (repos.map (listedRepository w.settings w.clock qs)), w₂) := by
  -- the clock and the settings are read after the fetches, which leave both as they were
  have clock : w₂.clock = w.clock := by
    rw [← congrArg (·.2.clock) asked, (questions_clock_settings w₁).1, ← congrArg (·.2.clock) fetched,
      (repositories_clock_settings w).1]
  have settings : w₂.settings = w.settings := by
    rw [← congrArg (·.2.settings) asked, (questions_clock_settings w₁).2, ← congrArg (·.2.settings) fetched,
      (repositories_clock_settings w).2]
  rw [publishingRepositories, ServiceAct.outcome_bind, outcome_viaStore_repositories, fetched]
  dsimp only [Except.mapError]
  rw [ServiceAct.outcome_bind, outcome_viaStore_questions, asked]
  dsimp only [Except.mapError]
  rw [ServiceAct.outcome_lift_bind, Script.outcome_op, World.outcome_now, ServiceAct.outcome_lift_bind,
    Script.outcome_op, World.outcome_settings, clock, settings]
  rw [funext (repositoryDto_questionIndex w.settings w.clock qs)]
  rfl

end Listing

/-- What the repository listing answers from world `w`, whatever its fetches answer. -/
structure ListingLaws (w : World) : Prop where
  repositoriesFailed : ∀ e w₁, Op.repositories.outcome w = (.error e, w₁) →
    publishingRepositories.run.outcome w = (.error (ServiceError.ofStorage listingOperation e), w₁)
  questionsFailed : ∀ repos w₁ e w₂, Op.repositories.outcome w = (.ok repos, w₁) →
    Op.questions.outcome w₁ = (.error e, w₂) →
    publishingRepositories.run.outcome w = (.error (ServiceError.ofStorage listingOperation e), w₂)
  joined : ∀ repos w₁ qs w₂, Op.repositories.outcome w = (.ok repos, w₁) →
    Op.questions.outcome w₁ = (.ok qs, w₂) →
    publishingRepositories.run.outcome w = (.ok (repos.map (listedRepository w.settings w.clock qs)), w₂)
  inMemory : w.InMemory → (publishingRepositories.run.outcome w).1 =
    .ok (w.store.repositories.map (listedRepository w.settings w.clock w.store.questions))

/-- The repository listing, from any world: a failed fetch of the repositories or of the
questions is its answer; otherwise one entry per repository fetched, in order, whose questions
are those of the ids the repository lists, in the order listed, repeats kept, unknown ids
skipped and the last record of an id counting, and whose files are signed with the settings'
expiries and the call's one clock reading. On the in-memory store the repositories and the
questions are the store's. -/
theorem repository_listing_joins_questions (w : World) : ListingLaws w where
  repositoriesFailed _ _ failed := listing_of_repositories_failed failed
  questionsFailed _ _ _ _ fetched failed := listing_of_questions_failed fetched failed
  joined _ _ _ _ fetched asked := listing_of_fetched fetched asked
  inMemory hw := by
    rw [listing_of_fetched (World.outcome_repositories hw) (World.outcome_questions (hw.countStore _))]
    rfl

end Service
end DatasetProposals
