import GraphQuery.Proofs.Parameter.Pairing
import GraphQuery.Proofs.Pattern.Binding

/-!
# Patterns with other values

Patterns of two runs are alike if they differ in the values of their conditions at most, and in the
handles that were given out for them. They stay alike when they change their mode, and their texts
have the same skeleton.
-/

namespace GraphQuery

variable {ρ ρ' : Handle → Handle → Prop} {next next' : Nat}

namespace PatternConditions

theorem keys_allocateFields (fields : List (String × Json)) : ∀ s : Scope,
    (allocateFields fields s).1.map (·.1) = fields.map (·.1) := by
  induction fields with
  | nil => exact fun s => rfl
  | cons field rest ih => exact fun s => congrArg (field.1 :: ·) (ih _)

theorem names_allocateFields_eq {fields : List (String × Json)} :
    ∀ {fields' : List (String × Json)}, fields.map (·.1) = fields'.map (·.1) →
      ∀ {s t : Scope}, s.table.names = t.table.names →
        (allocateFields fields s).2.table.names = (allocateFields fields' t).2.table.names := by
  induction fields with
  | nil =>
    intro fields' hkeys s t h
    rw [List.map_nil, eq_comm, List.map_eq_nil_iff] at hkeys
    rw [hkeys]
    exact h
  | cons field rest ih =>
    intro fields' hkeys s t h
    cases fields' with
    | nil => cases hkeys
    | cons field' rest' =>
      obtain ⟨hkey, hkeys⟩ := List.cons.inj hkeys
      exact ih hkeys (Scope.names_allocate_eq h field.2 field'.2 (congrArg some hkey))

theorem skeleton_entries_eq {entries entries' : List (String × Handle)}
    (h : entries.map (·.1) = entries'.map (·.1)) :
    (entries.map entryFragment).map Fragment.skeleton =
      (entries'.map entryFragment).map Fragment.skeleton := by
  have key : ∀ entries : List (String × Handle),
      (entries.map entryFragment).map Fragment.skeleton =
        (entries.map (·.1)).map fun key => (entryFragment (key, ⟨0⟩)).skeleton := by
    intro entries
    rw [List.map_map, List.map_map]
    refine List.map_congr_left fun entry _ => ?_
    simp [entryFragment]
  rw [key, key, h]

theorem fields_eq_nil_iff {c d : PatternConditions}
    (hkeys : c.fields.map (·.1) = d.fields.map (·.1)) : c.fields = [] ↔ d.fields = [] := by
  rw [← List.map_eq_nil_iff (f := Prod.fst), hkeys, List.map_eq_nil_iff]

/-- The text of a new binding has the keys and the mode in it, whatever is in the tables. -/
theorem skeleton_rebind_eq {c d : PatternConditions}
    (hkeys : c.fields.map (·.1) = d.fields.map (·.1)) (hmode : c.mode = d.mode) (s t : Scope) :
    (c.rebind s).1.render.skeleton = (d.rebind t).1.render.skeleton := by
  unfold rebind
  rw [hmode]
  by_cases hfields : d.fields = []
  · rw [if_pos ((fields_eq_nil_iff hkeys).mpr hfields), if_pos hfields]
    rfl
  · rw [if_neg (mt (fields_eq_nil_iff hkeys).mp hfields), if_neg hfields]
    cases d.mode with
    | condensed => rfl
    | expanded =>
      have hentries :
          (allocateFields c.fields ⟨(c.release s.table).2, s.next⟩).1.map (·.1) =
            (allocateFields d.fields ⟨(d.release t.table).2, t.next⟩).1.map (·.1) := by
        rw [keys_allocateFields, keys_allocateFields, hkeys]
      simp only [render, Fragment.skeleton_append, Fragment.skeleton_join,
        skeleton_entries_eq hentries, Fragment.skeleton_text]

theorem rebind_eq_of_keys {c d : PatternConditions} {s t : Scope}
    (hkeys : c.fields.map (·.1) = d.fields.map (·.1)) (hmode : c.mode = d.mode)
    (hc : c.handles = s.table.handles) (hd : d.handles = t.table.handles) :
    (c.rebind s).1.render.skeleton = (d.rebind t).1.render.skeleton ∧
      (c.rebind s).2.table.names = (d.rebind t).2.table.names := by
  refine ⟨skeleton_rebind_eq hkeys hmode s t, ?_⟩
  unfold rebind
  rw [release_eq_empty hc, release_eq_empty hd, hmode]
  by_cases hfields : d.fields = []
  · rw [if_pos ((fields_eq_nil_iff hkeys).mpr hfields), if_pos hfields]
  · rw [if_neg (mt (fields_eq_nil_iff hkeys).mp hfields), if_neg hfields]
    cases d.mode with
    | condensed => rfl
    | expanded => exact names_allocateFields_eq hkeys rfl

theorem fields_rebind (c : PatternConditions) (s : Scope) : (c.rebind s).1.fields = c.fields := by
  unfold rebind
  split
  · rfl
  · split <;> rfl

theorem mode_rebind (c : PatternConditions) (s : Scope) : (c.rebind s).1.mode = c.mode := by
  unfold rebind
  split
  · rfl
  · split <;> rfl

end PatternConditions

namespace Pattern

/-- What two patterns have in common when only the values of their conditions differ. -/
structure Akin (p q : Pattern) : Prop where
  shape : p.shape = q.shape
  name : p.name = q.name
  labels : p.labels = q.labels
  keys : p.conditions.fields.map (·.1) = q.conditions.fields.map (·.1)
  mode : p.conditions.mode = q.conditions.mode

structure Alike (ρ : Handle → Handle → Prop) (p q : Pattern) : Prop extends Akin p q where
  skeleton : p.conditions.render.skeleton = q.conditions.render.skeleton
  table : p.table.Alike ρ q.table

variable {p q : Pattern}

theorem Alike.mono (h : Alike ρ p q) (hle : ρ ≤ ρ') : Alike ρ' p q :=
  { h with table := h.table.mono hle }

theorem Akin.skeleton_build (h : Akin p q)
    (hskeleton : p.conditions.render.skeleton = q.conditions.render.skeleton) :
    p.build.skeleton = q.build.skeleton := by
  have hhead : p.head = q.head := by
    unfold head
    rw [h.name, h.labels, h.shape]
  have hinner : p.inner.skeleton = q.inner.skeleton := by
    have hempty := Fragment.isEmpty_eq_of_skeleton hskeleton
    unfold inner
    simp only [hempty, hhead]
    split
    · rfl
    · rw [Fragment.skeleton_append, Fragment.skeleton_append, hskeleton]
  have hempty := Fragment.isEmpty_eq_of_skeleton hinner
  unfold build
  rw [h.shape]
  cases q.shape with
  | node => simp [hinner]
  | relation direction length =>
    simp only [hempty]
    split <;> simp [hinner]

theorem Alike.skeleton_build (h : Alike ρ p q) : p.build.skeleton = q.build.skeleton :=
  h.toAkin.skeleton_build h.skeleton

/-! ## New bindings -/

/-- A pattern whose conditions are bound anew. -/
def rebound (p : Pattern) (next : Nat) : Pattern × Nat :=
  let bound := p.conditions.rebind ⟨p.table, next⟩
  ({ p with conditions := bound.1, table := bound.2.table }, bound.2.next)

theorem Akin.rebound (h : Akin p q) (hρ : Pairing ρ next next')
    (hp : p.conditions.handles = p.table.handles) (hq : q.conditions.handles = q.table.handles) :
    ∃ ρ', ρ ≤ ρ' ∧ Pairing ρ' (p.rebound next).2 (q.rebound next').2 ∧
      Alike ρ' (p.rebound next).1 (q.rebound next').1 := by
  obtain ⟨hskeleton, hnames⟩ :=
    PatternConditions.rebind_eq_of_keys (s := ⟨p.table, next⟩) (t := ⟨q.table, next'⟩) h.keys h.mode hp hq
  have hstores := PatternConditions.rebind_stores (s := ⟨p.table, next⟩) hp
  have hstores' := PatternConditions.rebind_stores (s := ⟨q.table, next'⟩) hq
  have hlength : (p.rebound next).1.conditions.handles.length =
      (q.rebound next').1.conditions.handles.length := by
    rw [← PatternConditions.handles_render, ← PatternConditions.handles_render]
    exact Fragment.length_handles_eq_of_skeleton hskeleton
  obtain ⟨ρ', hle, hpairing, hhandles⟩ := hρ.stores hstores hstores' hlength
  refine ⟨ρ', hle, hpairing, ⟨h.shape, h.name, h.labels, ?_, ?_⟩, hskeleton, hnames, ?_⟩
  · show (p.conditions.rebind _).1.fields.map (·.1) = (q.conditions.rebind _).1.fields.map (·.1)
    rw [PatternConditions.fields_rebind, PatternConditions.fields_rebind, h.keys]
  · show (p.conditions.rebind _).1.mode = (q.conditions.rebind _).1.mode
    rw [PatternConditions.mode_rebind, PatternConditions.mode_rebind, h.mode]
  · show List.Forall₂ ρ' (p.conditions.rebind ⟨p.table, next⟩).2.table.handles
      (q.conditions.rebind ⟨q.table, next'⟩).2.table.handles
    rw [hstores.handles, hstores'.handles]
    exact hhandles

theorem Alike.setMode (h : Alike ρ p q) (hρ : Pairing ρ next next')
    (hp : p.build.handles = p.table.handles) (hq : q.build.handles = q.table.handles)
    (mode : ConditionMode) :
    ∃ ρ', ρ ≤ ρ' ∧ Pairing ρ' (p.setMode mode next).2 (q.setMode mode next').2 ∧
      Alike ρ' (p.setMode mode next).1 (q.setMode mode next').1 := by
  rw [handles_build] at hp hq
  unfold Pattern.setMode PatternConditions.setMode
  rw [h.mode]
  by_cases hmode : q.conditions.mode = mode
  · rw [if_pos hmode, if_pos hmode]
    exact ⟨ρ, le_refl ρ, hρ, h⟩
  · rw [if_neg hmode, if_neg hmode]
    have hakin : Akin { p with conditions := { p.conditions with mode } }
        { q with conditions := { q.conditions with mode } } :=
      ⟨h.shape, h.name, h.labels, h.keys, rfl⟩
    exact hakin.rebound hρ hp hq

end Pattern

def PatternArguments.blank (args : PatternArguments) : PatternArguments :=
  { args with conditions := args.conditions.map fun field => (field.1, .null) }

theorem Pattern.alike_ofArguments (hρ : Pairing ρ next next') (shape : Shape)
    (args : PatternArguments) :
    ∃ ρ', ρ ≤ ρ' ∧
      Pairing ρ' (ofArguments shape args next).2 (ofArguments shape args.blank next').2 ∧
      Alike ρ' (ofArguments shape args next).1 (ofArguments shape args.blank next').1 := by
  have hakin : Akin ⟨shape, args.name, args.labels, ⟨args.conditions, .expanded, .unbound⟩, .empty⟩
      ⟨shape, args.blank.name, args.blank.labels, ⟨args.blank.conditions, .expanded, .unbound⟩,
        .empty⟩ := by
    refine ⟨rfl, rfl, rfl, ?_, rfl⟩
    unfold PatternArguments.blank
    rw [List.map_map]
    rfl
  exact hakin.rebound hρ rfl rfl

end GraphQuery
