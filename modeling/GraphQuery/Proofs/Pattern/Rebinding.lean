import GraphQuery.Proofs.Parameter.Merge
import GraphQuery.Proofs.Parameter.Requests
import GraphQuery.Proofs.Pattern.Alike

/-!
# Conditions in a table that others use

The conditions of a pattern may be in a table with other parameters, which come and go while the
conditions change their mode or are released. `ownership_of_reached`: whatever the order of all
this, the conditions own the parameters of their present binding and these are complete, nothing is
left of an earlier binding, and the parameters of others are never touched.
-/

namespace GraphQuery

namespace ParameterTable

variable {next : Nat} {t : ParameterTable} {hs : List Handle} {vs : List Json}

/-! ## Removing by handle -/

theorem entries_remove (hn : t.handles.Nodup) (k : Handle) :
    (t.remove k).entries = t.entries.filter (·.handle ≠ k) := by
  obtain ⟨entries⟩ := t
  induction entries with
  | nil => rfl
  | cons p rest ih =>
    obtain ⟨hp, hrest⟩ := List.nodup_cons.mp hn
    by_cases hk : p.handle = k
    · subst hk
      have hothers : rest.filter (·.handle ≠ p.handle) = rest := by
        refine List.filter_eq_self.mpr fun q hq => decide_eq_true fun heq => ?_
        exact hp (List.mem_map.mpr ⟨q, hq, heq⟩)
      show (p :: rest).eraseP (·.handle = p.handle) = (p :: rest).filter (·.handle ≠ p.handle)
      rw [List.eraseP_cons_of_pos (by simp), List.filter_cons_of_neg (by simp), hothers]
    · show (p :: rest).eraseP (·.handle = k) = (p :: rest).filter (·.handle ≠ k)
      rw [List.eraseP_cons_of_neg (by simpa using hk), List.filter_cons_of_pos (by simpa using hk)]
      exact congrArg (p :: ·) (ih hrest)

theorem entries_foldl_remove (hs : List Handle) : ∀ {t : ParameterTable}, t.handles.Nodup →
    (hs.foldl remove t).entries = t.entries.filter (·.handle ∉ hs) := by
  induction hs with
  | nil => simp
  | cons k rest ih =>
    intro t hn
    have hremoved : (t.remove k).handles.Nodup :=
      hn.sublist ((List.eraseP_sublist ..).map _)
    rw [List.foldl_cons, ih hremoved, entries_remove hn, List.filter_filter]
    refine List.filter_congr fun p _ => ?_
    simp [Bool.and_comm]

theorem Reachable.foldl_remove (hs : List Handle) : ∀ {t : ParameterTable}, Reachable next t →
    Reachable next (hs.foldl ParameterTable.remove t) := by
  induction hs with
  | nil => exact fun h => h
  | cons k rest ih => exact fun h => ih (.remove k h)

theorem mem_handles_filter {ps : List Parameter} {owned : List Handle} {k : Handle} :
    k ∈ (ps.filter (·.handle ∉ owned)).map (·.handle) ↔ k ∈ ps.map (·.handle) ∧ k ∉ owned := by
  simp only [List.mem_map, List.mem_filter, decide_eq_true_eq]
  constructor
  · rintro ⟨p, ⟨hp, hfree⟩, rfl⟩
    exact ⟨⟨p, hp, rfl⟩, hfree⟩
  · rintro ⟨⟨p, hp, rfl⟩, hfree⟩
    exact ⟨p, ⟨hp, hfree⟩, rfl⟩

/-! ## Parameters by handle and value -/

/-- The value that a table has for a handle. -/
def value? (t : ParameterTable) (k : Handle) : Option Json :=
  (t.get? k).map (·.value)

/-- A table has parameters with these handles and these values, in this order. -/
def Holds (t : ParameterTable) (hs : List Handle) (vs : List Json) : Prop :=
  ∃ ps ⊆ t.entries, ps.map (·.handle) = hs ∧ ps.map (·.value) = vs

theorem Holds.subset (h : t.Holds hs vs) : hs ⊆ t.handles := by
  obtain ⟨ps, hps, rfl, -⟩ := h
  exact List.map_subset _ hps

theorem Holds.map_value? (h : t.Holds hs vs) (hn : t.handles.Nodup) :
    hs.map t.value? = vs.map some := by
  obtain ⟨ps, hps, rfl, rfl⟩ := h
  rw [List.map_map, List.map_map]
  refine List.map_congr_left fun p hp => ?_
  have hget : t.get? p.handle = some p := find?_of_nodup hn (hps hp)
  exact congrArg (Option.map _) hget

theorem Holds.mono {t' : ParameterTable} (h : t.Holds hs vs)
    (hkept : ∀ p ∈ t.entries, p.handle ∈ hs → p ∈ t'.entries) : t'.Holds hs vs := by
  obtain ⟨ps, hps, hhandles, hvalues⟩ := h
  refine ⟨ps, fun p hp => hkept p (hps hp) ?_, hhandles, hvalues⟩
  rw [← hhandles]
  exact List.mem_map_of_mem hp

end ParameterTable

namespace Scope

variable {s s' : Scope} {hs : List Handle}

theorem Stores.next_le (h : s.Stores hs s') {k : Handle} (hk : k ∈ hs) : s.next ≤ k.index := by
  rw [h.fresh] at hk
  obtain ⟨i, hi, rfl⟩ := List.mem_map.mp hk
  exact (List.mem_range'_1.mp hi).1

theorem reachable_storeAll (rs : List (String × Json)) : ∀ {s : Scope},
    ParameterTable.Reachable s.next s.table → (storeAll rs s).2.next ≤ Handle.limit →
      ParameterTable.Reachable (storeAll rs s).2.next (storeAll rs s).2.table := by
  induction rs with
  | nil => exact fun h _ => h
  | cons r rest ih =>
    intro s h hlimit
    have hnext := (storeAll_stores (r :: rest) s).next
    rw [length_storeAll, List.length_cons] at hnext
    exact ih (.allocate r.2 (some r.1) h (by omega)) hlimit

end Scope

namespace Binding

/-- The form of a binding in a mode. A map without fields is not bound. -/
inductive Suits (fields : List (String × Json)) : ConditionMode → Binding → Prop
  | unbound {mode : ConditionMode} : fields = [] → Suits fields mode .unbound
  | expanded {entries : List (String × Handle)} : fields ≠ [] →
      entries.map (·.1) = fields.map (·.1) → Suits fields .expanded (.expanded entries)
  | condensed {k : Handle} : fields ≠ [] → Suits fields .condensed (.condensed k)

variable {fields : List (String × Json)} {binding : Binding}

theorem Suits.eq_unbound {mode : ConditionMode} (h : binding.Suits fields mode)
    (hfields : fields = []) : binding = .unbound := by
  cases h with
  | unbound _ => rfl
  | expanded hne _ => exact absurd hfields hne
  | condensed hne => exact absurd hfields hne

theorem Suits.exists_expanded (h : binding.Suits fields .expanded) (hfields : fields ≠ []) :
    ∃ entries, binding = .expanded entries ∧ entries.map (·.1) = fields.map (·.1) := by
  cases h with
  | unbound hnil => exact absurd hnil hfields
  | expanded _ hkeys => exact ⟨_, rfl, hkeys⟩

theorem Suits.exists_condensed (h : binding.Suits fields .condensed) (hfields : fields ≠ []) :
    ∃ k, binding = .condensed k := by
  cases h with
  | unbound hnil => exact absurd hnil hfields
  | condensed _ => exact ⟨_, rfl⟩

end Binding

namespace PatternConditions

variable {t : ParameterTable}

/-! ## Release and rebinding -/

theorem entries_release (c : PatternConditions) (hn : t.handles.Nodup) :
    (c.release t).2.entries = t.entries.filter (·.handle ∉ c.handles) :=
  ParameterTable.entries_foldl_remove c.handles hn

theorem mem_handles_release (c : PatternConditions) (hn : t.handles.Nodup) {k : Handle} :
    k ∈ (c.release t).2.handles ↔ k ∈ t.handles ∧ k ∉ c.handles := by
  unfold ParameterTable.handles
  rw [entries_release c hn, ParameterTable.mem_handles_filter]

/-- What conditions store in a mode. -/
def requests (fields : List (String × Json)) : ConditionMode → List (String × Json)
  | .expanded => fields
  | .condensed => if fields = [] then [] else [(condensedName, .object fields)]

theorem rebind_eq_storeAll (c : PatternConditions) (s : Scope) :
    let stored := Scope.storeAll (requests c.fields c.mode) ⟨(c.release s.table).2, s.next⟩
    (c.rebind s).1.handles = stored.1 ∧ (c.rebind s).2 = stored.2 := by
  unfold rebind requests
  by_cases hfields : c.fields = []
  · rw [if_pos hfields, if_pos hfields, hfields]
    cases c.mode <;> exact ⟨rfl, rfl⟩
  · rw [if_neg hfields, if_neg hfields]
    cases c.mode with
    | expanded => exact allocateFields_eq_storeAll c.fields _
    | condensed => exact ⟨rfl, rfl⟩

theorem suits_rebind (c : PatternConditions) (s : Scope) :
    (c.rebind s).1.binding.Suits c.fields c.mode := by
  unfold rebind
  by_cases hfields : c.fields = []
  · rw [if_pos hfields]
    exact .unbound hfields
  · rw [if_neg hfields]
    cases c.mode with
    | expanded => exact .expanded hfields (keys_allocateFields c.fields _)
    | condensed => exact .condensed hfields

/-- The new parameters stand behind those of others, which are as they were. -/
theorem exists_entries_rebind (c : PatternConditions) {s : Scope} (hn : s.table.handles.Nodup) :
    ∃ stored, (c.rebind s).2.table.entries =
        s.table.entries.filter (·.handle ∉ c.handles) ++ stored ∧
      stored.map (·.handle) = (c.rebind s).1.handles ∧
      stored.map (·.value) = (requests c.fields c.mode).map (·.2) := by
  obtain ⟨hhandles, hscope⟩ := rebind_eq_storeAll c s
  obtain ⟨stored, hentries, hstored, hvalues, -⟩ := Scope.exists_entries_storeAll
    (requests c.fields c.mode) ⟨(c.release s.table).2, s.next⟩
  rw [entries_release c hn] at hentries
  exact ⟨stored, by rw [hscope, hentries], by rw [hhandles, hstored], hvalues⟩

theorem mem_handles_rebind (c : PatternConditions) {s : Scope} (hn : s.table.handles.Nodup)
    {k : Handle} : k ∈ (c.rebind s).2.table.handles ↔
      k ∈ s.table.handles ∧ k ∉ c.handles ∨ k ∈ (c.rebind s).1.handles := by
  obtain ⟨stored, hentries, hhandles, -⟩ := exists_entries_rebind c hn
  unfold ParameterTable.handles
  rw [hentries, List.map_append, List.mem_append, hhandles,
    ParameterTable.mem_handles_filter]

theorem next_le_rebind (c : PatternConditions) (s : Scope) : s.next ≤ (c.rebind s).2.next := by
  rw [(rebind_eq_storeAll c s).2, (Scope.storeAll_stores _ ⟨(c.release s.table).2, s.next⟩).next]
  exact Nat.le_add_right ..

theorem next_le_of_mem_rebind (c : PatternConditions) (s : Scope) {k : Handle}
    (hk : k ∈ (c.rebind s).1.handles) : s.next ≤ k.index := by
  rw [(rebind_eq_storeAll c s).1] at hk
  exact (Scope.storeAll_stores _ ⟨(c.release s.table).2, s.next⟩).next_le hk

theorem foreign_rebind (c : PatternConditions) {s : Scope} (hn : s.table.handles.Nodup)
    (hissued : ∀ k ∈ s.table.handles, k.Issued s.next) :
    (c.rebind s).2.table.entries.filter (·.handle ∉ (c.rebind s).1.handles) =
      s.table.entries.filter (·.handle ∉ c.handles) := by
  obtain ⟨stored, hentries, hhandles, -⟩ := exists_entries_rebind c hn
  have hold : (s.table.entries.filter (·.handle ∉ c.handles)).filter
      (·.handle ∉ (c.rebind s).1.handles) = s.table.entries.filter (·.handle ∉ c.handles) := by
    refine List.filter_eq_self.mpr fun p hp => decide_eq_true fun hmem => ?_
    have hold := (hissued p.handle (List.mem_map_of_mem (List.mem_of_mem_filter hp))).2
    exact absurd (next_le_of_mem_rebind c s hmem) (Nat.not_le.mpr hold)
  have hnew : stored.filter (·.handle ∉ (c.rebind s).1.handles) = [] := by
    refine List.filter_eq_nil_iff.mpr fun p hp => ?_
    rw [decide_eq_true_eq, not_not, ← hhandles]
    exact List.mem_map_of_mem hp
  rw [hentries, List.filter_append, hold, hnew, List.append_nil]

theorem reachable_rebind (c : PatternConditions) {s : Scope}
    (h : ParameterTable.Reachable s.next s.table) (hlimit : (c.rebind s).2.next ≤ Handle.limit) :
    ParameterTable.Reachable (c.rebind s).2.next (c.rebind s).2.table := by
  rw [(rebind_eq_storeAll c s).2] at hlimit ⊢
  exact Scope.reachable_storeAll _ (.foldl_remove c.handles h) hlimit

end PatternConditions

/-! ## A table in use -/

/-- Conditions in a table that others use as well, and what has happened so far. -/
structure Occupancy where
  conditions : PatternConditions
  scope : Scope
  /-- The mode that was asked for last. -/
  mode : ConditionMode
  /-- Whether the conditions are bound, and not released. -/
  bound : Bool
  /-- All handles that the conditions ever had. -/
  past : List Handle
  /-- The handles that others brought in with parameters from elsewhere. -/
  brought : List Handle

namespace Occupancy

def bind (fields : List (String × Json)) (mode : ConditionMode) (s : Scope) : Occupancy :=
  let first := PatternConditions.bind fields mode s
  ⟨first.1, first.2, mode, true, first.1.handles, []⟩

/-- Released conditions stay so until they are asked for a mode other than their own. -/
def setMode (o : Occupancy) (mode : ConditionMode) : Occupancy :=
  let changed := o.conditions.setMode mode o.scope
  { o with
    conditions := changed.1
    scope := changed.2
    mode := mode
    bound := o.bound || o.mode ≠ mode
    past := o.past ++ changed.1.handles }

def release (o : Occupancy) : Occupancy :=
  let released := o.conditions.release o.scope.table
  { o with
    conditions := released.1
    scope := ⟨released.2, o.scope.next⟩
    bound := false }

/-- The table is another one, after a use that brought handles in. -/
def used (o : Occupancy) (s : Scope) (brought : List Handle) : Occupancy :=
  { o with scope := s, brought := o.brought ++ brought }

/-- The parameters of others, in order. -/
def foreign (o : Occupancy) : List Parameter :=
  o.scope.table.entries.filter (·.handle ∉ o.conditions.handles)

/-- What others do with a table, and which handles they bring in with parameters from elsewhere.
They do not remove what the owner of some handles has there. -/
inductive Use (owned : List Handle) : Scope → Scope → List Handle → Prop
  | elsewhere {s : Scope} (next : Nat) : s.next ≤ next → next ≤ Handle.limit →
      Use owned s ⟨s.table, next⟩ []
  | allocate {s : Scope} (value : Json) (requested : Option String) : s.next < Handle.limit →
      Use owned s (s.allocate value requested).2 []
  | adopt {s : Scope} (p : Parameter) : p.handle.Issued s.next → p.handle ∉ s.table.handles →
      Use owned s ⟨s.table.adopt p, s.next⟩ [p.handle]
  | merge {s : Scope} {other : ParameterTable} : ParameterTable.Reachable s.next other →
      (∀ k ∈ s.table.handles, k ∉ other.handles) →
      Use owned s ⟨s.table.merge other, s.next⟩ other.handles
  | removeNamed {s : Scope} (name : String) :
      (∀ p, s.table.named? name = some p → p.handle ∉ owned) →
      Use owned s ⟨s.table.removeNamed name, s.next⟩ []
  | remove {s : Scope} (k : Handle) : k ∉ owned → Use owned s ⟨s.table.remove k, s.next⟩ []

/-- What can have become of conditions on some fields, bound into any table. -/
inductive Reached (fields : List (String × Json)) : Occupancy → Prop
  | bind {s : Scope} (mode : ConditionMode) : ParameterTable.Reachable s.next s.table →
      (bind fields mode s).scope.next ≤ Handle.limit → Reached fields (bind fields mode s)
  | setMode {o : Occupancy} (mode : ConditionMode) : Reached fields o →
      (o.setMode mode).scope.next ≤ Handle.limit → Reached fields (o.setMode mode)
  | release {o : Occupancy} : Reached fields o → Reached fields o.release
  | use {o : Occupancy} {s : Scope} {brought : List Handle} : Reached fields o →
      Use o.conditions.handles o.scope s brought → Reached fields (o.used s brought)

variable {fields : List (String × Json)} {o : Occupancy} {owned brought : List Handle}
  {s s' : Scope}

/-! ## What others do -/

theorem Use.next_le (h : Use owned s s' brought) : s.next ≤ s'.next := by
  cases h with
  | elsewhere next hle _ => exact hle
  | allocate value requested _ => exact Nat.le_succ _
  | _ => exact Nat.le_refl _

theorem Use.reachable (h : Use owned s s' brought)
    (hs : ParameterTable.Reachable s.next s.table) :
    ParameterTable.Reachable s'.next s'.table := by
  cases h with
  | elsewhere next hle hlimit => exact hs.later hle hlimit
  | allocate value requested hlimit => exact .allocate value requested hs hlimit
  | adopt p hissued hnew => exact .adopt p hs hissued hnew
  | merge hother hdisjoint => exact .merge hs hother hdisjoint
  | removeNamed name _ => exact .removeNamed name hs
  | remove k _ => exact .remove k hs

theorem Use.mem_entries (h : Use owned s s' brought) (hn : s.table.names.Nodup) {p : Parameter}
    (hp : p ∈ s.table.entries) (howned : p.handle ∈ owned) : p ∈ s'.table.entries := by
  cases h with
  | elsewhere next _ _ => exact hp
  | allocate value requested _ => exact List.mem_append_left _ hp
  | adopt q _ _ => exact List.mem_append_left _ hp
  | merge _ _ =>
    obtain ⟨moved, hentries, -⟩ := ParameterTable.exists_entries_merge s.table _
    rw [hentries]
    exact List.mem_append_left _ hp
  | removeNamed name hkept =>
    refine (List.mem_eraseP_of_neg ?_).mpr hp
    intro hname
    rw [decide_eq_true_eq] at hname
    subst hname
    exact hkept p (ParameterTable.find?_of_nodup hn hp) howned
  | remove k hkept =>
    refine (List.mem_eraseP_of_neg ?_).mpr hp
    intro hk
    rw [decide_eq_true_eq] at hk
    exact hkept (hk ▸ howned)

/-- A handle that has been given out comes into the table only with a parameter from elsewhere. -/
theorem Use.mem_handles (h : Use owned s s' brought) {k : Handle} (hk : k ∈ s'.table.handles)
    (hissued : k.Issued s.next) : k ∈ s.table.handles ∨ k ∈ brought := by
  cases h with
  | elsewhere next _ _ => exact .inl hk
  | allocate value requested _ =>
    rcases List.mem_append.mp ((ParameterTable.handles_adopt ..) ▸ hk) with hk | hk
    · exact .inl hk
    · rw [List.mem_singleton] at hk
      subst hk
      exact absurd hissued.2 (Nat.lt_irrefl _)
  | adopt p _ _ => exact List.mem_append.mp ((ParameterTable.handles_adopt ..) ▸ hk)
  | merge _ _ => exact List.mem_append.mp ((ParameterTable.handles_merge ..) ▸ hk)
  | removeNamed name _ => exact .inl (((List.eraseP_sublist ..).map _).subset hk)
  | remove j _ => exact .inl (((List.eraseP_sublist ..).map _).subset hk)

/-! ## The invariant -/

/-- The values that bound conditions have stored. -/
def values (fields : List (String × Json)) (o : Occupancy) : List Json :=
  if o.bound then (PatternConditions.requests fields o.mode).map (·.2) else []

structure Tidy (fields : List (String × Json)) (o : Occupancy) : Prop where
  reachable : ParameterTable.Reachable o.scope.next o.scope.table
  kept : o.conditions.fields = fields
  mode : o.conditions.mode = o.mode
  binding : if o.bound then o.conditions.binding.Suits fields o.mode
    else o.conditions.binding = .unbound
  nodup : o.conditions.handles.Nodup
  holds : o.scope.table.Holds o.conditions.handles (o.values fields)
  issued : ∀ k ∈ o.past, k.Issued o.scope.next
  left : ∀ k ∈ o.past, k ∈ o.scope.table.handles → k ∈ o.conditions.handles ∨ k ∈ o.brought

theorem Tidy.use (h : Tidy fields o) (hu : Use o.conditions.handles o.scope s brought) :
    Tidy fields (o.used s brought) where
  reachable := hu.reachable h.reachable
  kept := h.kept
  mode := h.mode
  binding := h.binding
  nodup := h.nodup
  holds := h.holds.mono fun _ => hu.mem_entries h.reachable.sound.names
  issued := fun k hk => (h.issued k hk).mono hu.next_le
  left := by
    intro k hpast hk
    rcases hu.mem_handles hk (h.issued k hpast) with hk | hk
    · exact (h.left k hpast hk).imp_right (List.mem_append_left _)
    · exact .inr (List.mem_append_right _ hk)

theorem Tidy.release (h : Tidy fields o) : Tidy fields o.release where
  reachable := .foldl_remove _ h.reachable
  kept := h.kept
  mode := h.mode
  binding := rfl
  nodup := List.nodup_nil
  holds := ⟨[], List.nil_subset _, rfl, rfl⟩
  issued := h.issued
  left := by
    intro k hpast hk
    obtain ⟨hk, hfree⟩ := (o.conditions.mem_handles_release h.reachable.sound.handles).mp hk
    exact .inr ((h.left k hpast hk).resolve_left hfree)

theorem tidy_rebind {c : PatternConditions} (past : List Handle)
    (hs : ParameterTable.Reachable s.next s.table) (hlimit : (c.rebind s).2.next ≤ Handle.limit)
    (hissued : ∀ k ∈ past, k.Issued s.next)
    (hleft : ∀ k ∈ past, k ∈ s.table.handles → k ∈ c.handles ∨ k ∈ brought) :
    Tidy c.fields ⟨(c.rebind s).1, (c.rebind s).2, c.mode, true,
      past ++ (c.rebind s).1.handles, brought⟩ := by
  have hreachable := c.reachable_rebind hs hlimit
  obtain ⟨stored, hentries, hhandles, hvalues⟩ := c.exists_entries_rebind hs.sound.handles
  have hmem := fun k => c.mem_handles_rebind (k := k) hs.sound.handles
  refine ⟨hreachable, c.fields_rebind s, c.mode_rebind s, c.suits_rebind s, ?_, ?_, ?_, ?_⟩
  · have hnodup := hreachable.sound.handles
    rw [ParameterTable.handles, hentries, List.map_append, hhandles] at hnodup
    exact (List.nodup_append.mp hnodup).2.1
  · refine ⟨stored, ?_, hhandles, hvalues⟩
    rw [hentries]
    exact List.subset_append_right ..
  · intro k hk
    rcases List.mem_append.mp hk with hk | hk
    · exact (hissued k hk).mono (c.next_le_rebind s)
    · exact hreachable.sound.issued k ((hmem k).mpr (.inr hk))
  · intro k hpast hk
    rcases (hmem k).mp hk with ⟨hk, hfree⟩ | hk
    · rcases List.mem_append.mp hpast with hpast | hpast
      · exact .inr ((hleft k hpast hk).resolve_left hfree)
      · exact .inl hpast
    · exact .inl hk

theorem tidy_bind {mode : ConditionMode} (hs : ParameterTable.Reachable s.next s.table)
    (hlimit : (bind fields mode s).scope.next ≤ Handle.limit) : Tidy fields (bind fields mode s) :=
  tidy_rebind (c := ⟨fields, mode, .unbound⟩) [] hs hlimit (by simp) (by simp)

theorem Tidy.setMode_of_eq (h : Tidy fields o) {mode : ConditionMode} (hmode : o.mode = mode) :
    o.setMode mode = { o with past := o.past ++ o.conditions.handles } := by
  have hsame : o.conditions.mode = mode := h.mode.trans hmode
  simp [Occupancy.setMode, PatternConditions.setMode, hsame, hmode]

theorem Tidy.setMode_of_ne (h : Tidy fields o) {mode : ConditionMode} (hmode : o.mode ≠ mode) :
    o.setMode mode =
      let changed := { o.conditions with mode }.rebind o.scope
      ⟨changed.1, changed.2, mode, true, o.past ++ changed.1.handles, o.brought⟩ := by
  have hother : o.conditions.mode ≠ mode := h.mode ▸ hmode
  simp [Occupancy.setMode, PatternConditions.setMode, hother, hmode]

theorem Tidy.setMode (h : Tidy fields o) {mode : ConditionMode}
    (hlimit : (o.setMode mode).scope.next ≤ Handle.limit) : Tidy fields (o.setMode mode) := by
  by_cases hmode : o.mode = mode
  · rw [h.setMode_of_eq hmode]
    have hpresent : ∀ k ∈ o.conditions.handles, k ∈ o.scope.table.handles := h.holds.subset
    refine { h with issued := fun k hk => ?_, left := fun k hpast hk => ?_ }
    · rcases List.mem_append.mp hk with hk | hk
      · exact h.issued k hk
      · exact h.reachable.sound.issued k (hpresent k hk)
    · rcases List.mem_append.mp hpast with hpast | hpast
      · exact h.left k hpast hk
      · exact .inl hpast
  · rw [h.setMode_of_ne hmode] at hlimit ⊢
    have htidy := tidy_rebind (c := { o.conditions with mode }) o.past h.reachable hlimit h.issued
      h.left
    rw [← h.kept]
    exact htidy

theorem Reached.tidy (h : Reached fields o) : Tidy fields o := by
  induction h with
  | bind mode hs hlimit => exact tidy_bind hs hlimit
  | setMode mode _ hlimit ih => exact ih.setMode hlimit
  | release _ ih => exact ih.release
  | use _ hu ih => exact ih.use hu

/-! ## Ownership -/

theorem Tidy.unbound (h : Tidy fields o) (hnone : o.bound = false ∨ fields = []) :
    o.conditions.binding = .unbound := by
  have hbinding := h.binding
  by_cases hbound : o.bound = true
  · rw [if_pos hbound] at hbinding
    exact hbinding.eq_unbound (hnone.resolve_left (by simp [hbound]))
  · rwa [if_neg hbound] at hbinding

theorem Tidy.map_value? (h : Tidy fields o) (hbound : o.bound = true) :
    o.conditions.handles.map o.scope.table.value? =
      (PatternConditions.requests fields o.mode).map fun request => some request.2 := by
  have hvalues := h.holds.map_value? h.reachable.sound.handles
  rw [values, if_pos hbound, List.map_map] at hvalues
  exact hvalues

theorem Tidy.expanded (h : Tidy fields o) (hbound : o.bound = true) (hfields : fields ≠ [])
    (hmode : o.mode = .expanded) :
    (∃ entries, o.conditions.binding = .expanded entries ∧
      entries.map (·.1) = fields.map (·.1)) ∧
    o.conditions.handles.length = fields.length ∧
    o.conditions.handles.map o.scope.table.value? = fields.map fun field => some field.2 := by
  have hbinding := h.binding
  have hvalues := h.map_value? hbound
  rw [if_pos hbound, hmode] at hbinding
  rw [hmode] at hvalues
  refine ⟨hbinding.exists_expanded hfields, ?_, hvalues⟩
  have hlength := congrArg List.length hvalues
  rwa [List.length_map, List.length_map] at hlength

theorem Tidy.condensed (h : Tidy fields o) (hbound : o.bound = true) (hfields : fields ≠ [])
    (hmode : o.mode = .condensed) :
    ∃ k, o.conditions.binding = .condensed k ∧ o.conditions.handles = [k] ∧
      o.scope.table.value? k = some (.object fields) := by
  have hbinding := h.binding
  have hvalues := h.map_value? hbound
  rw [if_pos hbound, hmode] at hbinding
  obtain ⟨k, hk⟩ := hbinding.exists_condensed hfields
  have hhandles : o.conditions.handles = [k] := congrArg Binding.handles hk
  rw [hmode, hhandles, PatternConditions.requests, if_neg hfields] at hvalues
  exact ⟨k, hk, hhandles, (List.cons.inj hvalues).1⟩

theorem Tidy.exists_finalize (h : Tidy fields o) :
    ∃ text, o.conditions.render.finalize o.scope.table = .ok text := by
  refine Fragment.exists_finalize_iff.mpr fun k hk => ?_
  rw [PatternConditions.handles_render] at hk
  exact h.holds.subset hk

theorem Tidy.foreign_release (h : Tidy fields o) : o.release.foreign = o.foreign := by
  have hentries : o.release.scope.table.entries = o.foreign :=
    o.conditions.entries_release h.reachable.sound.handles
  rw [foreign, hentries]
  -- nothing is owned any more
  exact List.filter_eq_self.mpr fun p _ => rfl

theorem Tidy.foreign_setMode (h : Tidy fields o) (mode : ConditionMode) :
    (o.setMode mode).foreign = o.foreign ∧
      ∀ k ∈ o.conditions.handles, k ∉ (o.setMode mode).conditions.handles →
        k ∉ (o.setMode mode).scope.table.handles := by
  have hsound := h.reachable.sound
  by_cases hmode : o.mode = mode
  · rw [h.setMode_of_eq hmode]
    exact ⟨rfl, fun k hk hgone => absurd hk hgone⟩
  · rw [h.setMode_of_ne hmode]
    refine ⟨PatternConditions.foreign_rebind _ hsound.handles hsound.issued, ?_⟩
    intro k hk hgone hmem
    rcases (PatternConditions.mem_handles_rebind _ hsound.handles).mp hmem with ⟨-, hfree⟩ | hnew
    · exact hfree hk
    · exact hgone hnew

/-- **Rebinding is all or nothing.** However conditions change their mode, are released and bound
again while others use the table, they own distinct parameters, which are in the table: as many as
there are fields in expanded mode, with the values of these in their order, one with the whole map
in condensed mode, and none while they are released or have no fields. Their text is final. Of the
handles that they once had, the table has none that others did not bring back. A release and a
change of the mode remove what they give up and do nothing to the parameters of others. -/
theorem ownership_of_reached (h : Reached fields o) :
    (o.conditions.handles.Nodup ∧ o.conditions.handles ⊆ o.scope.table.handles ∧
      o.conditions.mode = o.mode) ∧
    (o.bound = false ∨ fields = [] →
      o.conditions.binding = .unbound ∧ o.conditions.handles = []) ∧
    (o.bound = true → fields ≠ [] → o.mode = .expanded →
      (∃ entries, o.conditions.binding = .expanded entries ∧
        entries.map (·.1) = fields.map (·.1)) ∧
      o.conditions.handles.length = fields.length ∧
      o.conditions.handles.map o.scope.table.value? = fields.map fun field => some field.2) ∧
    (o.bound = true → fields ≠ [] → o.mode = .condensed →
      ∃ k, o.conditions.binding = .condensed k ∧ o.conditions.handles = [k] ∧
        o.scope.table.value? k = some (.object fields)) ∧
    (∃ text, o.conditions.render.finalize o.scope.table = .ok text) ∧
    (∀ k ∈ o.past, k ∈ o.scope.table.handles → k ∈ o.conditions.handles ∨ k ∈ o.brought) ∧
    (o.release.foreign = o.foreign ∧
      ∀ k ∈ o.conditions.handles, k ∉ o.release.scope.table.handles) ∧
    ∀ mode, (o.setMode mode).foreign = o.foreign ∧
      ∀ k ∈ o.conditions.handles, k ∉ (o.setMode mode).conditions.handles →
        k ∉ (o.setMode mode).scope.table.handles := by
  have htidy := h.tidy
  refine ⟨⟨htidy.nodup, htidy.holds.subset, htidy.mode⟩, fun hnone => ?_, htidy.expanded,
    htidy.condensed, htidy.exists_finalize, htidy.left, ⟨htidy.foreign_release, ?_⟩,
    htidy.foreign_setMode⟩
  · have hunbound := htidy.unbound hnone
    exact ⟨hunbound, congrArg Binding.handles hunbound⟩
  · intro k hk hmem
    exact ((o.conditions.mem_handles_release htidy.reachable.sound.handles).mp hmem).2 hk

/-- Conditions in a table with an `a`, to which `conditions` comes, where they change their mode. -/
def condensedAmongOthers : Occupancy :=
  let first := bind [("a", .bool true), ("b", .null)] .expanded ⟨.single 1 "a", 2⟩
  let second := first.used (first.scope.allocate .null (some "conditions")).2 []
  second.setMode .condensed

/-- Their old parameter comes back from elsewhere, the first `a` goes, and they are released, asked
for the mode they are in, and for the other one. -/
def expandedAgain : Occupancy :=
  let first := condensedAmongOthers
  let second := first.used ⟨first.scope.table.adopt ⟨⟨2⟩, "a2", .bool true⟩, 6⟩ [⟨2⟩]
  let third := second.used ⟨second.scope.table.removeNamed "a", 6⟩ []
  (third.release.setMode .condensed).setMode .expanded

theorem ownership_of_reached_expandedAgain :
    Reached [("a", .bool true), ("b", .null)] expandedAgain ∧
      expandedAgain.scope.table.names = ["conditions", "a2", "a3", "b"] ∧
      expandedAgain.past = [⟨2⟩, ⟨3⟩, ⟨5⟩, ⟨6⟩, ⟨7⟩] ∧
      expandedAgain.conditions.handles.map expandedAgain.scope.table.value? =
        [some (.bool true), some .null] ∧
      (∃ text, expandedAgain.conditions.render.finalize expandedAgain.scope.table = .ok text) ∧
      (expandedAgain.setMode .condensed).foreign = expandedAgain.foreign := by
  have hcondensed : Reached [("a", .bool true), ("b", .null)] condensedAmongOthers := by
    refine .setMode .condensed (.use (.bind .expanded ?_ (by decide)) ?_) (by decide)
    · exact ParameterTable.reachable_single "a" (by decide) (by decide)
    · exact .allocate .null (some "conditions") (by decide)
  have hagain : Reached [("a", .bool true), ("b", .null)] expandedAgain := by
    refine .setMode .expanded (.setMode .condensed (.release (.use (.use hcondensed ?_) ?_))
      (by decide)) (by decide)
    · exact .adopt _ ⟨by decide, by decide⟩ (by decide)
    · exact .removeNamed "a" (by decide +kernel)
  obtain ⟨-, -, hexpanded, -, htext, -, -, hmode⟩ := ownership_of_reached hagain
  refine ⟨hagain, by decide +kernel, by decide +kernel, ?_, htext, (hmode .condensed).1⟩
  exact (hexpanded rfl (List.cons_ne_nil _ _) rfl).2.2

end Occupancy

end GraphQuery
