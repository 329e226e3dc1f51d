import GraphQuery.Fragment
import Mathlib.Data.List.Basic

/-!
# Putting in the names

A fragment has a final text exactly when the table has every parameter that it mentions
(`exists_finalize_iff`), and what the text is depends on the names of these parameters alone
(`finalize_congr`).
-/

namespace GraphQuery

namespace ParameterTable

variable {t : ParameterTable} {k : Handle}

theorem get?_eq_none_iff : t.get? k = none ↔ k ∉ t.handles := by
  unfold get? handles
  rw [List.find?_eq_none, List.mem_map, not_exists]
  refine forall_congr' fun p => ?_
  rw [decide_eq_true_eq, not_and]

theorem exists_get? (h : k ∈ t.handles) : ∃ p, t.get? k = some p := by
  cases hp : t.get? k with
  | none => exact absurd h (get?_eq_none_iff.mp hp)
  | some p => exact ⟨p, rfl⟩

theorem mem_handles_of_get? {p : Parameter} (h : t.get? k = some p) : k ∈ t.handles := by
  refine Classical.byContradiction fun hno => ?_
  rw [get?_eq_none_iff.mpr hno] at h
  cases h

/-- The name that a table has for a handle. -/
def nameOf? (t : ParameterTable) (k : Handle) : Option String :=
  (t.get? k).map (·.name)

theorem exists_nameOf? (h : k ∈ t.handles) : ∃ name, t.nameOf? k = some name := by
  obtain ⟨p, hp⟩ := exists_get? h
  exact ⟨p.name, congrArg (Option.map _) hp⟩

theorem mem_handles_of_nameOf? {name : String} (h : t.nameOf? k = some name) : k ∈ t.handles := by
  obtain ⟨p, hp, -⟩ := Option.map_eq_some_iff.mp h
  exact mem_handles_of_get? hp

end ParameterTable

namespace Fragment

variable {f : Fragment} {t t' : ParameterTable}

/-! ## Segment by segment -/

theorem handles_cons_param (k : Handle) (rest : List Segment) :
    handles ⟨.param k :: rest⟩ = k :: handles ⟨rest⟩ := rfl

theorem resolve_param (t : ParameterTable) (k : Handle) (rest : List Segment) :
    resolve t (.param k :: rest) =
      match t.nameOf? k with
      | some name => (resolve t rest).map ("$" ++ name ++ ·)
      | none => .error ⟨k⟩ := by
  rw [resolve]
  unfold ParameterTable.nameOf?
  cases t.get? k <;> rfl

theorem resolve_text_eq_ok_iff {s text : String} {l : List Segment} :
    resolve t (.text s :: l) = .ok text ↔ ∃ more, resolve t l = .ok more ∧ s ++ more = text := by
  rw [resolve]
  cases resolve t l <;> simp [Except.map]

theorem resolve_param_eq_ok_iff {k : Handle} {text : String} {l : List Segment} :
    resolve t (.param k :: l) = .ok text ↔
      ∃ name more, t.nameOf? k = some name ∧ resolve t l = .ok more ∧
        "$" ++ name ++ more = text := by
  rw [resolve_param]
  cases t.nameOf? k <;> cases resolve t l <;> simp [Except.map]

theorem exists_resolve {l : List Segment} (h : ∀ k ∈ handles ⟨l⟩, k ∈ t.handles) :
    ∃ text, resolve t l = .ok text := by
  induction l with
  | nil => exact ⟨"", rfl⟩
  | cons x rest ih =>
    cases x with
    | text s =>
      obtain ⟨text, htext⟩ := ih h
      exact ⟨_, resolve_text_eq_ok_iff.mpr ⟨text, htext, rfl⟩⟩
    | param k =>
      rw [handles_cons_param, List.forall_mem_cons] at h
      obtain ⟨text, htext⟩ := ih h.2
      obtain ⟨name, hname⟩ := ParameterTable.exists_nameOf? h.1
      exact ⟨_, resolve_param_eq_ok_iff.mpr ⟨name, text, hname, htext, rfl⟩⟩

theorem mem_of_resolve {l : List Segment} : ∀ {text : String}, resolve t l = .ok text →
    ∀ k ∈ handles ⟨l⟩, k ∈ t.handles := by
  induction l with
  | nil => exact fun _ k hk => absurd hk List.not_mem_nil
  | cons x rest ih =>
    intro text htext
    cases x with
    | text s =>
      obtain ⟨_, hrest, -⟩ := resolve_text_eq_ok_iff.mp htext
      exact ih hrest
    | param k =>
      obtain ⟨name, _, hname, hrest, -⟩ := resolve_param_eq_ok_iff.mp htext
      rw [handles_cons_param, List.forall_mem_cons]
      exact ⟨ParameterTable.mem_handles_of_nameOf? hname, ih hrest⟩

theorem resolve_congr {l : List Segment} (h : ∀ k ∈ handles ⟨l⟩, t.nameOf? k = t'.nameOf? k) :
    resolve t l = resolve t' l := by
  induction l with
  | nil => rfl
  | cons x rest ih =>
    cases x with
    | text s => rw [resolve, resolve, ih h]
    | param k =>
      rw [handles_cons_param, List.forall_mem_cons] at h
      rw [resolve_param, resolve_param, h.1, ih h.2]

/-! ## Whole fragments -/

theorem exists_finalize_iff : (∃ text, f.finalize t = .ok text) ↔ ∀ k ∈ f.handles, k ∈ t.handles :=
  ⟨fun ⟨_, h⟩ => mem_of_resolve h, exists_resolve⟩

/-- The text of a fragment without handles is final. -/
theorem finalize_text (s : String) (t : ParameterTable) : (text s).finalize t = .ok s := by
  unfold finalize text consSegment
  by_cases hs : s = ""
  · simp [hs, resolve]
  · simp [hs, resolve, Except.map]

theorem finalize_congr (h : ∀ k ∈ f.handles, t.nameOf? k = t'.nameOf? k) :
    f.finalize t = f.finalize t' :=
  resolve_congr h

end Fragment

end GraphQuery
