import Mathlib.Data.List.Forall2
import DatasetProposals.Store.Documents
/-! The stored form of a record reads back as the record, and the store's filters hold of a stored
record exactly when its fields are the ones asked for. -/
namespace DatasetProposals
namespace Json

@[simp] theorem str_beq (a b : String) : (Json.str a == Json.str b) = (a == b) := rfl

/-- A whole number a stored document holds: a signed 64-bit integer. -/
def FitsInt64 (n : Int) : Prop := -9223372036854775808 ≤ n ∧ n ≤ 9223372036854775807

namespace Decoder

theorem string_ofJson (s : String) : string (Doc.ofJson (.str s)) = .ok s := rfl

theorem int64_ofJson {n : Int} (fits : FitsInt64 n) : int64 (Doc.ofJson (.int n)) = .ok n := by
  simp [int64, intIn, Doc.ofJson, fits.1, fits.2]

theorem list_go_ofJson {d : Decoder α} {enc : α → Json} (xs : List α)
    (each : ∀ x ∈ xs, d (Doc.ofJson (enc x)) = .ok x) (i : Nat) :
    list.go d i (Doc.ofJsonItems (xs.map enc)) = .ok xs := by
  induction xs generalizing i with
  | nil => rfl
  | cons x xs ih =>
    have first := each x List.mem_cons_self
    have rest := ih (fun y mem => each y (List.mem_cons_of_mem x mem)) (i + 1)
    simp only [List.map_cons, Doc.ofJsonItems, list.go, first, rest, under]
    rfl

theorem list_ofJson {d : Decoder α} {enc : α → Json} (xs : List α)
    (each : ∀ x ∈ xs, d (Doc.ofJson (enc x)) = .ok x) :
    list d (Doc.ofJson (.arr (xs.map enc))) = .ok xs :=
  list_go_ofJson xs each 0

end Decoder

@[simp] theorem FieldSpec.check_req (name : String) (d : Decoder α) (doc : Doc) :
    (FieldSpec.req name d).check doc = (d doc).map fun _ => () := rfl

@[simp] theorem FieldSpec.check_opt (name : String) (d : Decoder α) (doc : Doc) :
    (FieldSpec.opt name d).check doc = (d doc).map fun _ => () := rfl

def slotOf (m : String × Json) : Option Doc := some (Doc.ofJson m.2)

theorem readRecord_go_done (fields : List FieldSpec) (members : List (String × Json)) :
    readRecord.go fields (some 0) [] (members.map slotOf) = .ok (members.map slotOf) := by
  simp only [readRecord.go]
  -- every slot is filled, so no required field is missing
  rw [List.find?_eq_none.mpr]
  rintro ⟨f, s⟩ mem
  obtain ⟨m, -, rfl⟩ := List.mem_map.mp (List.of_mem_zip mem).2
  simp [slotOf]

theorem readRecord_go_ofJson (fields : List FieldSpec) (pre rest : List (String × Json))
    (indexed : rest.map (fieldIndex? fields ·.1) = (List.range' pre.length rest.length).map some)
    (checked : List.Forall₂ (fun m f => FieldSpec.check f (Doc.ofJson m.2) = .ok ()) rest
      (fields.drop pre.length)) :
    readRecord.go fields (some 0) (Doc.ofJsonFields rest)
        (pre.map slotOf ++ List.replicate rest.length none) = .ok ((pre ++ rest).map slotOf) := by
  induction rest generalizing pre with
  | nil =>
    simp only [List.length_nil, List.replicate_zero, List.append_nil, Doc.ofJsonFields]
    exact readRecord_go_done fields pre
  | cons m rest ih =>
    obtain ⟨key, value⟩ := m
    obtain ⟨f, later, field, checkedRest, dropped⟩ := List.forall₂_cons_left_iff.mp checked
    simp only [List.map_cons, List.length_cons, List.range'_succ, List.cons.injEq] at indexed
    -- the member names the field at the first empty slot, which it fills
    have found : fields[pre.length]? = some f := by
      rw [← List.head?_drop, dropped]
      rfl
    have empty : (pre.map slotOf ++ List.replicate (rest.length + 1) none)[pre.length]? =
        some none := by
      simp
    have filled : (pre.map slotOf ++ List.replicate (rest.length + 1) none).set pre.length
        (some (Doc.ofJson value)) = (pre ++ [(key, value)]).map slotOf ++
          List.replicate rest.length none := by
      simp [List.set_append_right, List.replicate_succ, slotOf]
    have next := ih (pre ++ [(key, value)]) (by simpa using indexed.2)
      (by rwa [List.length_append, List.length_singleton, ← List.drop_drop, dropped])
    simp only [Doc.ofJsonFields, readRecord.go, indexed.1, List.length_cons, empty, found, field,
      Decoder.under]
    rw [filled, next, List.append_assoc, List.singleton_append]

theorem readRecord_ofJson (what : String) (fields : List FieldSpec) (members : List (String × Json))
    (indexed : members.map (fieldIndex? fields ·.1) = (List.range members.length).map some)
    (checked : List.Forall₂ (fun m f => FieldSpec.check f (Doc.ofJson m.2) = .ok ()) members fields) :
    readRecord what fields (Doc.ofJson (.obj members)) = .ok (members.map slotOf) := by
  have length := checked.length_eq
  have started := readRecord_go_ofJson fields [] members (by simpa [List.range_eq_range'] using indexed)
    (by simpa using checked)
  simp only [List.map_nil, List.nil_append, length] at started
  simp only [Doc.ofJson, readRecord]
  rw [← started]
  congr
  simp [List.map_const']

end Json

open Json

theorem Documents.read_members {d : Decoder α} {fs : List (String × Json)} {a : α}
    (h : d (Doc.ofJson (.obj fs)) = .ok a) : Documents.read d fs = .ok a := by
  simp [Documents.read, h]

namespace FileLocation

theorem read_stored (f : FileLocation) : decoder (Doc.ofJson f.toJson) = .ok f := by
  unfold decoder toJson
  rw [readRecord_ofJson _ _ _ rfl (by simp [Decoder.string_ofJson, Except.map])]
  simp [slotValue, slotOf, Decoder.string_ofJson, bind, Except.bind, pure, Except.pure]

end FileLocation

namespace InfoRecord

theorem read_stored (r : InfoRecord) : decoder (Doc.ofJson r.toJson) = .ok r := by
  unfold decoder toJson
  rw [readRecord_ofJson _ _ _ rfl
    (by simp [Decoder.string_ofJson, FileLocation.read_stored, Except.map])]
  simp [slotValue, slotOf, Decoder.string_ofJson, FileLocation.read_stored, bind, Except.bind,
    pure, Except.pure]

def stored (r : InfoRecord) : List (String × Json) := Documents.members r.toJson

theorem read_stored_members (r : InfoRecord) : Documents.read decoder r.stored = .ok r :=
  Documents.read_members (read_stored r)

end InfoRecord

namespace QuestionRecord

theorem read_stored {q : QuestionRecord} (fits : FitsInt64 q.id) :
    decoder (Doc.ofJson q.toJson) = .ok q := by
  unfold decoder toJson
  rw [readRecord_ofJson _ _ _ rfl
    (by simp [Decoder.string_ofJson, Decoder.int64_ofJson fits, Except.map])]
  simp [slotValue, slotOf, Decoder.string_ofJson, Decoder.int64_ofJson fits, bind, Except.bind,
    pure, Except.pure]

def stored (q : QuestionRecord) : List (String × Json) := Documents.members q.toJson

theorem read_stored_members {q : QuestionRecord} (fits : FitsInt64 q.id) :
    Documents.read decoder q.stored = .ok q :=
  Documents.read_members (read_stored fits)

end QuestionRecord

namespace RepositoryRecord

def integers (r : RepositoryRecord) : List Int := [r.repositoryId, r.createdAt, r.updatedAt] ++ r.questions

/-- A repository a stored document can hold. -/
def Fits (r : RepositoryRecord) : Prop := ∀ n ∈ r.integers, FitsInt64 n

theorem read_stored {r : RepositoryRecord} (fits : r.Fits) : decoder (Doc.ofJson r.toJson) = .ok r := by
  simp only [Fits, integers, List.cons_append, List.forall_mem_cons] at fits
  obtain ⟨repositoryId, createdAt, updatedAt, questions⟩ := fits
  have listed : Decoder.list Decoder.int64 (Doc.ofJson (.arr (r.questions.map .int))) =
      .ok r.questions :=
    Decoder.list_ofJson r.questions fun n mem => Decoder.int64_ofJson (questions n mem)
  unfold decoder toJson
  rw [readRecord_ofJson _ _ _ rfl (by
    simp [fields, Decoder.string_ofJson, FileLocation.read_stored, listed, Except.map,
      Decoder.int64_ofJson, repositoryId, createdAt, updatedAt])]
  simp [slotValue, slotOf, Decoder.string_ofJson, FileLocation.read_stored, listed,
    Decoder.int64_ofJson, repositoryId, createdAt, updatedAt, bind, Except.bind, pure, Except.pure]

def stored (r : RepositoryRecord) : List (String × Json) := Documents.members r.toJson

theorem read_stored_members {r : RepositoryRecord} (fits : r.Fits) :
    Documents.read decoder r.stored = .ok r :=
  Documents.read_members (read_stored fits)

theorem matches_organization (r : RepositoryRecord) (org : String) :
    matchesFilter [("OrganizationNodeId", .str org)] r.stored = decide (org = r.organizationNodeId) := by
  simp [matchesFilter, stored, toJson, Documents.members, sameValue, Json.sameNumber?,
    Bool.beq_eq_decide_eq]

end RepositoryRecord

namespace SurveyAnswer

theorem read_stored {a : SurveyAnswer} (fits : FitsInt64 a.questionId) :
    decoder (Doc.ofJson a.toJson) = .ok a := by
  unfold decoder toJson
  rw [readRecord_ofJson _ _ _ rfl
    (by simp [Decoder.string_ofJson, Decoder.int64_ofJson fits, Except.map])]
  simp [slotValue, slotOf, Decoder.string_ofJson, Decoder.int64_ofJson fits, bind, Except.bind,
    pure, Except.pure]

end SurveyAnswer

namespace Contributor

theorem read_stored (c : Contributor) : decoder (Doc.ofJson c.toJson) = .ok c := by
  unfold decoder toJson
  rw [readRecord_ofJson _ _ _ rfl (by simp [fieldsWith, FieldSpec.named, Decoder.string_ofJson, Except.map])]
  simp [build, slotValue, slotOf, Decoder.string_ofJson, bind, Except.bind, pure, Except.pure]

end Contributor

theorem Status.name_inj {a b : Status} : a.name = b.name ↔ a = b := by
  cases a <;> cases b <;> decide

theorem storedStatusDecoder_name (st : Status) :
    storedStatusDecoder (Doc.ofJson (.str st.name)) = .ok st := by
  cases st <;> rfl

namespace Proposal

def integers (p : Proposal) : List Int :=
  [p.userId, p.repositoryId, p.createdAt, p.updatedAt, p.submittedAt, p.withdrawnAt, p.acceptedAt,
    p.rejectedAt] ++ p.survey.map (·.questionId)

/-- A proposal a stored document can hold: its whole numbers are signed 64-bit integers. -/
def Fits (p : Proposal) : Prop := ∀ n ∈ p.integers, FitsInt64 n

theorem read_stored {p : Proposal} (fits : p.Fits) : storedDecoder (Doc.ofJson p.toJson) = .ok p := by
  simp only [Fits, integers, List.cons_append, List.forall_mem_cons, List.forall_mem_append,
    List.forall_mem_map] at fits
  obtain ⟨userId, repositoryId, createdAt, updatedAt, submittedAt, withdrawnAt, acceptedAt,
    rejectedAt, -, questions⟩ := fits
  have survey : Decoder.list SurveyAnswer.decoder
      (Doc.ofJson (.arr (p.survey.map SurveyAnswer.toJson))) = .ok p.survey :=
    Decoder.list_ofJson p.survey fun a mem => SurveyAnswer.read_stored (questions a mem)
  have contributors : Decoder.list Contributor.decoder
      (Doc.ofJson (.arr (p.contributors.map Contributor.toJson))) = .ok p.contributors :=
    Decoder.list_ofJson p.contributors fun c _ => Contributor.read_stored c
  unfold storedDecoder decoderWith toJson
  rw [readRecord_ofJson _ _ _ rfl (by
    simp [fieldsWith, Decoder.string_ofJson, storedStatusDecoder_name, survey, contributors,
      Except.map, Decoder.int64_ofJson, userId, repositoryId, createdAt, updatedAt, submittedAt,
      withdrawnAt, acceptedAt, rejectedAt])]
  simp [slotValue, slotOf, Decoder.string_ofJson, storedStatusDecoder_name, survey, contributors,
    Decoder.int64_ofJson, userId, repositoryId, createdAt, updatedAt, submittedAt, withdrawnAt,
    acceptedAt, rejectedAt, bind, Except.bind, pure, Except.pure]

def stored (p : Proposal) : List (String × Json) := Documents.members p.toJson

theorem members_toJson (p : Proposal) : Documents.members p.toJson = p.stored := rfl

theorem read_stored_members {p : Proposal} (fits : p.Fits) :
    Documents.read storedDecoder p.stored = .ok p :=
  Documents.read_members (read_stored fits)

/-! Each filter the store asks of proposals holds of a stored proposal exactly when the
proposal's fields are the ones asked for. -/

theorem matches_keyFilter (p : Proposal) (u : Int) (n : String) :
    matchesFilter (Documents.keyFilter u n) p.stored = decide (⟨u, n⟩ = p.key) := by
  simp [matchesFilter, stored, toJson, Documents.members, Documents.keyFilter, sameValue,
    Json.sameNumber?, key, Bool.beq_eq_decide_eq]

theorem matches_keyFilter_status (p : Proposal) (u : Int) (n : String) (st : Status) :
    matchesFilter (Documents.keyFilter u n ++ [("ProposalStatus", .str st.name)]) p.stored =
      decide (⟨u, n⟩ = p.key ∧ st = p.status) := by
  simp [matchesFilter, stored, toJson, Documents.members, Documents.keyFilter, sameValue,
    Json.sameNumber?, key, Status.name_inj, Bool.beq_eq_decide_eq, Bool.and_assoc]

theorem matches_user (p : Proposal) (u : Int) :
    matchesFilter [("UserId", .int u)] p.stored = decide (u = p.userId) := by
  simp [matchesFilter, stored, toJson, Documents.members, sameValue, Json.sameNumber?, Bool.beq_eq_decide_eq]

theorem matches_workspace (p : Proposal) (org : String) (st : Status) :
    matchesFilter [("OrganizationNodeId", .str org), ("ProposalStatus", .str st.name)] p.stored =
      decide (org = p.organizationNodeId ∧ st = p.status) := by
  simp [matchesFilter, stored, toJson, Documents.members, sameValue, Json.sameNumber?,
    Status.name_inj, Bool.beq_eq_decide_eq]

theorem matches_repository (p : Proposal) (r : Int) (st : Status) (n : String) :
    matchesFilter [("RepositoryId", .int r), ("ProposalStatus", .str st.name), ("NodeId", .str n)]
      p.stored = decide (r = p.repositoryId ∧ st = p.status ∧ n = p.nodeId) := by
  simp [matchesFilter, stored, toJson, Documents.members, sameValue, Json.sameNumber?,
    Status.name_inj, Bool.beq_eq_decide_eq]

end Proposal

end DatasetProposals
