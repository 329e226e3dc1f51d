import GraphQuery.Pattern.Basic
import GraphQuery.Proofs.Fragment
import GraphQuery.Proofs.Parameter.Requests

/-!
# The parameters of a pattern

A pattern that owns just the parameters of its table still does so in another mode, since the old
ones go before the new ones are stored.
-/

namespace GraphQuery

namespace PatternConditions

theorem handles_entryFragment (entry : String × Handle) :
    (entryFragment entry).handles = [entry.2] := by
  simp [entryFragment]

theorem handles_render (c : PatternConditions) : c.render.handles = c.handles := by
  unfold render handles
  cases c.binding with
  | unbound => rfl
  | condensed handle => rfl
  | expanded entries =>
    have hentries : entries.flatMap (fun entry => (entryFragment entry).handles) =
        entries.map (·.2) := by
      simp only [handles_entryFragment]
      rw [← List.map_eq_flatMap]
    simp only [Fragment.handles_append, Fragment.handles_text, Fragment.handles_join,
      List.flatMap_map, List.nil_append, List.append_nil]
    exact hentries

/-- What stands at the end of a table and belongs to the conditions goes, and nothing else. -/
theorem release_eq {c : PatternConditions} {t : ParameterTable} {others stored : List Parameter}
    (hentries : t.entries = others ++ stored) (hstored : stored.map (·.handle) = c.handles)
    (hothers : ∀ p ∈ others, p.handle ∉ c.handles) : (c.release t).2 = ⟨others⟩ := by
  have key : ∀ stored : List Parameter,
      (∀ p ∈ others, p.handle ∉ stored.map (·.handle)) →
        (stored.map (·.handle)).foldl ParameterTable.remove ⟨others ++ stored⟩ = ⟨others⟩ := by
    intro stored
    induction stored with
    | nil => simp
    | cons p rest ih =>
      intro hfree
      simp only [List.map_cons, List.mem_cons, not_or] at hfree
      have hfirst : ParameterTable.remove ⟨others ++ p :: rest⟩ p.handle = ⟨others ++ rest⟩ := by
        have hpass : ∀ q ∈ others, ¬ decide (q.handle = p.handle) = true := fun q hq => by
          simpa using (hfree q hq).1
        simp [ParameterTable.remove, List.eraseP_append_right _ hpass]
      rw [List.map_cons, List.foldl_cons, hfirst]
      exact ih fun q hq => (hfree q hq).2
  obtain ⟨entries⟩ := t
  obtain rfl : entries = others ++ stored := hentries
  unfold release
  rw [← hstored] at hothers ⊢
  exact key stored hothers

theorem release_eq_empty {c : PatternConditions} {t : ParameterTable}
    (h : c.handles = t.handles) : (c.release t).2 = .empty :=
  release_eq (List.nil_append t.entries).symm h.symm (by simp)

theorem allocateFields_eq_storeAll (fields : List (String × Json)) : ∀ s : Scope,
    (allocateFields fields s).1.map (·.2) = (s.storeAll fields).1 ∧
      (allocateFields fields s).2 = (s.storeAll fields).2 := by
  induction fields with
  | nil => exact fun s => ⟨rfl, rfl⟩
  | cons field rest ih =>
    intro s
    obtain ⟨hhandles, hscope⟩ := ih (s.allocate field.2 (some field.1)).2
    exact ⟨congrArg (_ :: ·) hhandles, hscope⟩

theorem allocateFields_stores (fields : List (String × Json)) (s : Scope) :
    s.Stores ((allocateFields fields s).1.map (·.2)) (allocateFields fields s).2 := by
  obtain ⟨hhandles, hscope⟩ := allocateFields_eq_storeAll fields s
  rw [hhandles, hscope]
  exact Scope.storeAll_stores fields s

theorem rebind_stores {c : PatternConditions} {s : Scope} (h : c.handles = s.table.handles) :
    Scope.Stores ⟨.empty, s.next⟩ (c.rebind s).1.handles (c.rebind s).2 := by
  unfold rebind
  rw [release_eq_empty h]
  by_cases hfields : c.fields = []
  · rw [if_pos hfields]
    exact .refl _
  · rw [if_neg hfields]
    cases c.mode with
    | expanded => exact allocateFields_stores c.fields ⟨.empty, s.next⟩
    | condensed =>
      exact Scope.allocate_stores ⟨.empty, s.next⟩ (.object c.fields) (some condensedName)

end PatternConditions

namespace Pattern

theorem handles_inner (p : Pattern) : p.inner.handles = p.conditions.handles := by
  rw [← PatternConditions.handles_render]
  unfold inner
  by_cases hempty : p.conditions.render.isEmpty
  · rw [Fragment.isEmpty_iff.mp hempty]
    simp
  · simp [hempty]

theorem handles_build (p : Pattern) : p.build.handles = p.conditions.handles := by
  rw [← handles_inner]
  unfold build
  cases p.shape with
  | node => simp
  | relation direction length =>
    by_cases hempty : p.inner.isEmpty
    · rw [Fragment.isEmpty_iff.mp hempty]
      simp
    · simp [hempty]

theorem ofArguments_stores (shape : Shape) (args : PatternArguments) (next : Nat) :
    Scope.Stores ⟨.empty, next⟩ (ofArguments shape args next).1.build.handles
      ⟨(ofArguments shape args next).1.table, (ofArguments shape args next).2⟩ := by
  rw [handles_build]
  exact PatternConditions.rebind_stores (s := ⟨.empty, next⟩) rfl

/-- A pattern in another mode has new parameters only; in its own mode it stays as it is. -/
theorem setMode_cases {p : Pattern} (h : p.build.handles = p.table.handles)
    (mode : ConditionMode) (next : Nat) :
    p.setMode mode next = (p, next) ∨
      Scope.Stores ⟨.empty, next⟩ (p.setMode mode next).1.build.handles
        ⟨(p.setMode mode next).1.table, (p.setMode mode next).2⟩ := by
  rw [handles_build] at h
  rw [handles_build]
  by_cases hmode : p.conditions.mode = mode
  · left
    simp [setMode, PatternConditions.setMode, hmode]
  · right
    simp only [setMode, PatternConditions.setMode, if_neg hmode]
    exact PatternConditions.rebind_stores (c := { p.conditions with mode }) (s := ⟨p.table, next⟩) h

end Pattern

end GraphQuery
