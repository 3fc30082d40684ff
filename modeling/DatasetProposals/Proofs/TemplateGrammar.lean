import DatasetProposals.Notify.Template
/-! Template rendering read as a one-pass grammar. Main statement:
`render_follows_one_pass_grammar`. -/
namespace DatasetProposals

/-- A text holds a `${`. -/
def HasMarker (s : String) : Prop := ['$', '{'] <:+: s.toList

def placeholderText (attrs : Attributes) (k : String) : String :=
  (attrs.get? k).getD ("$\x7b" ++ k ++ "\x7d")

/-- The one-pass grammar of rendering. A text with no `${` stands for itself, as does one whose
leftmost `${` has no `}` after it. Otherwise the text before the leftmost `${` is kept, the key
up to the first `}` is replaced, and the rest is rendered on its own. -/
inductive Renders (attrs : Attributes) : String → String → Prop
  | plain {t : String} : ¬ HasMarker t → Renders attrs t t
  | unterminated {u v : String} : ¬ HasMarker u → '}' ∉ v.toList →
      Renders attrs (u ++ "$\x7b" ++ v) (u ++ "$\x7b" ++ v)
  | placeholder {u k w out : String} : ¬ HasMarker u → '}' ∉ k.toList → Renders attrs w out →
      Renders attrs (u ++ "$\x7b" ++ k ++ "\x7d" ++ w) (u ++ placeholderText attrs k ++ out)

/-- The keys the grammar looks up in a text, placeholder by placeholder. -/
inductive PlaceholderKey : String → String → Prop
  | here {u k w : String} : ¬ HasMarker u → '}' ∉ k.toList →
      PlaceholderKey (u ++ "$\x7b" ++ k ++ "\x7d" ++ w) k
  | later {u k w key : String} : ¬ HasMarker u → '}' ∉ k.toList → PlaceholderKey w key →
      PlaceholderKey (u ++ "$\x7b" ++ k ++ "\x7d" ++ w) key

/-! The character walk, one stretch at a time. -/

section Walk

variable (attrs : Attributes)

theorem renderChars_none_cons {c : Char} {l : List Char} (start : ¬ ['$', '{'] <+: c :: l) :
    renderChars attrs none (c :: l) = c :: renderChars attrs none l :=
  renderChars.eq_2 attrs c l fun rest dollar brace => start (by subst dollar brace; simp)

theorem renderChars_none_unmarked {l : List Char} (unmarked : ¬ ['$', '{'] <:+: l) :
    renderChars attrs none l = l := by
  induction l with
  | nil => rfl
  | cons c l ih =>
    rw [List.infix_cons_iff, not_or] at unmarked
    rw [renderChars_none_cons attrs unmarked.1, ih unmarked.2]

theorem renderChars_none_marker {u v : List Char} (unmarked : ¬ ['$', '{'] <:+: u) :
    renderChars attrs none (u ++ '$' :: '{' :: v) = u ++ renderChars attrs (some []) v := by
  induction u with
  | nil => exact renderChars.eq_1 attrs v
  | cons c u ih =>
    rw [List.infix_cons_iff, not_or] at unmarked
    -- `c` starts no `${`: `u` would have to start with `{`, or `u` is empty and `$` follows
    have start : ¬ ['$', '{'] <+: c :: (u ++ '$' :: '{' :: v) := by
      intro pre
      cases u with
      | nil => simp at pre
      | cons d u =>
        apply unmarked.1
        simp only [List.cons_append, List.cons_prefix_cons, List.nil_prefix, and_true] at pre ⊢
        exact pre
    rw [List.cons_append, renderChars_none_cons attrs start, ih unmarked.2, List.cons_append]

theorem renderChars_open_unterminated {key v : List Char} (unclosed : '}' ∉ v) :
    renderChars attrs (some key) v = '$' :: '{' :: (key.reverse ++ v) := by
  induction v generalizing key with
  | nil => simp [renderChars]
  | cons c v ih =>
    have other : c ≠ '}' := fun close => unclosed (close ▸ List.mem_cons_self)
    rw [renderChars.eq_5 attrs key c v other, ih fun mem => unclosed (List.mem_cons_of_mem c mem)]
    simp

theorem renderChars_open_close {key k w : List Char} (unclosed : '}' ∉ k) :
    renderChars attrs (some key) (k ++ '}' :: w) =
      (placeholderText attrs (String.ofList (key.reverse ++ k))).toList ++
        renderChars attrs none w := by
  induction k generalizing key with
  | nil =>
    rw [List.nil_append, renderChars.eq_4, List.append_nil, placeholderText]
    cases attrs.get? (String.ofList key.reverse) <;> simp
  | cons c k ih =>
    have other : c ≠ '}' := fun close => unclosed (close ▸ List.mem_cons_self)
    rw [List.cons_append, renderChars.eq_5 attrs key c _ other,
      ih fun mem => unclosed (List.mem_cons_of_mem c mem)]
    simp

end Walk

/-! Every text splits at its leftmost `${` and a key at its first `}`. -/

theorem exists_leftmost_marker {l : List Char} (marked : ['$', '{'] <:+: l) :
    ∃ u v, l = u ++ '$' :: '{' :: v ∧ ¬ ['$', '{'] <:+: u := by
  induction l with
  | nil => simp at marked
  | cons c l ih =>
    by_cases start : ['$', '{'] <+: c :: l
    · obtain ⟨v, split⟩ := start
      exact ⟨[], v, split.symm, by simp⟩
    · obtain ⟨u, v, rfl, unmarked⟩ := ih ((List.infix_cons_iff.mp marked).resolve_left start)
      refine ⟨c :: u, v, rfl, ?_⟩
      rw [List.infix_cons_iff, not_or]
      exact ⟨fun pre => start (pre.trans (List.prefix_append (c :: u) _)), unmarked⟩

theorem exists_first_close {v : List Char} (closed : '}' ∈ v) :
    ∃ k w, v = k ++ '}' :: w ∧ '}' ∉ k := by
  induction v with
  | nil => cases closed
  | cons c v ih =>
    by_cases close : c = '}'
    · exact ⟨[], v, by rw [close]; rfl, by simp⟩
    · obtain ⟨k, w, rfl, unclosed⟩ := ih ((List.mem_cons.mp closed).resolve_left (Ne.symm close))
      exact ⟨c :: k, w, rfl, by simp [unclosed, Ne.symm close]⟩

/-! Rendering against the grammar. -/

theorem render_eq_iff {t out : String} {attrs : Attributes} :
    render t attrs = out ↔ renderChars attrs none t.toList = out.toList := by
  rw [render, ← String.toList_inj, String.toList_ofList]

theorem render_of_renders {attrs : Attributes} {t out : String} (renders : Renders attrs t out) :
    render t attrs = out := by
  rw [render_eq_iff]
  induction renders with
  | plain unmarked => exact renderChars_none_unmarked attrs unmarked
  | @unterminated u v unmarked unclosed =>
    simp only [String.toList_append, show "$\x7b".toList = ['$', '{'] from rfl, List.append_assoc,
      List.cons_append, List.nil_append]
    rw [renderChars_none_marker attrs unmarked, renderChars_open_unterminated attrs unclosed]
    rfl
  | @placeholder u k w out unmarked unclosed _ ih =>
    simp only [String.toList_append, show "$\x7b".toList = ['$', '{'] from rfl,
      show "\x7d".toList = ['}'] from rfl, List.append_assoc, List.cons_append, List.nil_append]
    rw [renderChars_none_marker attrs unmarked, renderChars_open_close attrs unclosed, ih]
    simp

theorem renders_render (attrs : Attributes) (t : String) : Renders attrs t (render t attrs) := by
  by_cases marked : HasMarker t
  · obtain ⟨u, v, split, unmarked⟩ := exists_leftmost_marker marked
    have unmarked' : ¬ HasMarker (String.ofList u) := by simpa [HasMarker] using unmarked
    by_cases closed : '}' ∈ v
    · obtain ⟨k, w, rfl, unclosed⟩ := exists_first_close closed
      have text : t = String.ofList u ++ "$\x7b" ++ String.ofList k ++ "\x7d" ++ String.ofList w :=
        String.ext (by simp [split])
      have output : render t attrs =
          String.ofList u ++ placeholderText attrs (String.ofList k) ++ render (String.ofList w) attrs := by
        rw [render_eq_iff, split, renderChars_none_marker attrs unmarked,
          renderChars_open_close attrs unclosed]
        simp [render]
      rw [output, text]
      exact .placeholder unmarked' (by simpa using unclosed) (renders_render attrs (String.ofList w))
    · have text : t = String.ofList u ++ "$\x7b" ++ String.ofList v := String.ext (by simp [split])
      have output : render t attrs = t := by
        rw [render_eq_iff, split, renderChars_none_marker attrs unmarked,
          renderChars_open_unterminated attrs closed]
        rfl
      rw [output, text]
      exact .unterminated unmarked' (by simpa using closed)
  · rw [render_eq_iff.mpr (renderChars_none_unmarked attrs marked)]
    exact .plain marked
termination_by t.toList.length
decreasing_by
  simp only [String.toList_ofList, split, List.length_append, List.length_cons]
  omega

theorem Renders.eq_self {attrs : Attributes} {t out : String} (renders : Renders attrs t out)
    (unknown : ∀ k, PlaceholderKey t k → attrs.get? k = none) : out = t := by
  induction renders with
  | plain => rfl
  | unterminated => rfl
  | @placeholder u k w out unmarked unclosed _ ih =>
    have missing : attrs.get? k = none := unknown k (.here unmarked unclosed)
    rw [ih fun key later => unknown key (.later unmarked unclosed later), placeholderText, missing]
    simp [String.append_assoc]

/-- Rendering follows the one-pass grammar `Renders`: it gives exactly the output the grammar
assigns, so substituted values are never scanned again. Under no attributes every template
renders to itself, and so does every template none of whose placeholder keys names an
attribute. -/
theorem render_follows_one_pass_grammar (attrs : Attributes) (t out : String) :
    (render t attrs = out ↔ Renders attrs t out) ∧ render t Attributes.empty = t ∧
      ((∀ k, PlaceholderKey t k → attrs.get? k = none) → render t attrs = t) :=
  ⟨⟨fun rendered => rendered ▸ renders_render attrs t, render_of_renders⟩,
    (renders_render Attributes.empty t).eq_self fun _ _ => rfl,
    (renders_render attrs t).eq_self⟩

end DatasetProposals
