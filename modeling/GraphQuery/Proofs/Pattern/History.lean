import GraphQuery.Proofs.Clause.Apart
import GraphQuery.Proofs.Pattern.Reading
import GraphQuery.Proofs.Pattern.Rebinding

/-!
# Conditions whose mode was changed before

A change of the mode releases the old parameters before it stores the new ones, so the table is
that of the others again when names are chosen. `BoundInto` says that conditions are as a first
binding among these others would have left them, apart from the handles; every change of the mode
keeps it (`BoundInto.setMode`), and with it the names, the values and the final text are fixed.
-/

namespace GraphQuery

/-! ## Names and values -/

namespace ParameterTable

/-- The names of a table with their values, in order. -/
def pairs (t : ParameterTable) : List (String × Json) :=
  t.entries.map fun p => (p.name, p.value)

variable {t u other other' : ParameterTable}

theorem values_eq_ofPairs (t : ParameterTable) : t.values = Json.ofPairs t.pairs := rfl

theorem names_eq_of_pairs (h : t.pairs = u.pairs) : t.names = u.names := by
  rw [names_eq_namesWith id, names_eq_namesWith id]
  exact congrArg (List.map _) h

/-- Where no handle comes twice, each has the name of its own parameter. -/
theorem map_nameOf? {ps : List Parameter} (hn : t.handles.Nodup) (hps : ps ⊆ t.entries) :
    (ps.map (·.handle)).map t.nameOf? = ps.map fun p => some p.name := by
  rw [List.map_map]
  refine List.map_congr_left fun p hp => ?_
  have hget : t.get? p.handle = some p := find?_of_nodup hn (hps hp)
  exact congrArg (Option.map _) hget

end ParameterTable

namespace PatternConditions

variable {fields : List (String × Json)} {mode mode' : ConditionMode} {others t t' : ParameterTable}
  {c c' : PatternConditions}

/-! ## A first binding -/

theorem bind_stores (fields : List (String × Json)) (mode : ConditionMode) (s : Scope) :
    s.Stores (bind fields mode s).1.handles (bind fields mode s).2 := by
  obtain ⟨hhandles, hscope⟩ := rebind_eq_storeAll ⟨fields, mode, .unbound⟩ s
  unfold bind
  rw [hhandles, hscope]
  exact Scope.storeAll_stores _ s

theorem exists_entries_bind (fields : List (String × Json)) (mode : ConditionMode) (s : Scope) :
    ∃ stored, (bind fields mode s).2.table.entries = s.table.entries ++ stored ∧
      stored.map (·.handle) = (bind fields mode s).1.handles ∧
      stored.map (·.value) = (requests fields mode).map (·.2) ∧
      stored.map (·.name) = Naming.uniqueNames s.table.names ((requests fields mode).map (·.1)) := by
  obtain ⟨hhandles, hscope⟩ := rebind_eq_storeAll ⟨fields, mode, .unbound⟩ s
  unfold bind
  rw [hhandles, hscope]
  exact Scope.exists_entries_storeAll _ s

theorem rebind_eq_bind (c : PatternConditions) {s : Scope} (h : (c.release s.table).2 = t) :
    c.rebind s = bind c.fields c.mode ⟨t, s.next⟩ := by
  unfold bind rebind
  rw [h]
  rfl

/-! ## Bindings with any handles -/

/-- Conditions and their table are as a first binding in the mode leaves them where others have
their parameters, whichever handles were free. -/
def BoundInto (others : ParameterTable) (fields : List (String × Json)) (mode : ConditionMode)
    (c : PatternConditions) (t : ParameterTable) : Prop :=
  ∃ next, Apart next others.handles ∧ (bind fields mode ⟨others, next⟩).1 = c ∧
    (bind fields mode ⟨others, next⟩).2.table = t

theorem boundInto_bind {s : Scope} (h : Apart s.next s.table.handles) :
    BoundInto s.table fields mode (bind fields mode s).1 (bind fields mode s).2.table :=
  ⟨s.next, h, rfl, rfl⟩

namespace BoundInto

theorem fields_eq (h : BoundInto others fields mode c t) : c.fields = fields := by
  obtain ⟨next, -, rfl, -⟩ := h
  exact fields_rebind _ _

theorem mode_eq (h : BoundInto others fields mode c t) : c.mode = mode := by
  obtain ⟨next, -, rfl, -⟩ := h
  exact mode_rebind _ _

/-- The own parameters stand behind those of others, under names that the handles do not matter
to. -/
theorem exists_entries (h : BoundInto others fields mode c t) :
    ∃ stored, t.entries = others.entries ++ stored ∧ stored.map (·.handle) = c.handles ∧
      stored.map (·.value) = (requests fields mode).map (·.2) ∧
      stored.map (·.name) =
        Naming.uniqueNames others.names ((requests fields mode).map (·.1)) := by
  obtain ⟨next, -, rfl, rfl⟩ := h
  exact exists_entries_bind fields mode ⟨others, next⟩

theorem nodup (h : BoundInto others fields mode c t) : t.handles.Nodup := by
  obtain ⟨next, hapart, rfl, rfl⟩ := h
  have hstores := bind_stores fields mode ⟨others, next⟩
  rw [hstores.handles]
  exact (List.perm_append_comm.nodup_iff).mp (hapart.stores hstores).nodup

theorem release (h : BoundInto others fields mode c t) : (c.release t).2 = others := by
  obtain ⟨stored, hentries, hhandles, -⟩ := h.exists_entries
  have hnodup := h.nodup
  rw [ParameterTable.handles, hentries, List.map_append, hhandles] at hnodup
  refine release_eq hentries hhandles fun p hp hmem => ?_
  exact (List.nodup_append.mp hnodup).2.2 _ (List.mem_map_of_mem hp) _ hmem rfl

/-- One change of the mode. -/
theorem setMode (h : BoundInto others fields mode c t) {next : Nat}
    (hnext : Apart next others.handles) (mode' : ConditionMode) :
    BoundInto others fields mode' (c.setMode mode' ⟨t, next⟩).1
      (c.setMode mode' ⟨t, next⟩).2.table := by
  unfold PatternConditions.setMode
  by_cases hmode : c.mode = mode'
  · rw [if_pos hmode]
    rwa [← hmode, h.mode_eq]
  · rw [if_neg hmode]
    have hbind : { c with mode := mode' }.rebind ⟨t, next⟩ = bind fields mode' ⟨others, next⟩ := by
      rw [rebind_eq_bind _ h.release, h.fields_eq]
    rw [hbind]
    exact boundInto_bind (s := ⟨others, next⟩) hnext

/-! ## What is the same -/

theorem skeleton_eq (h : BoundInto others fields mode c t) (h' : BoundInto others fields mode c' t') :
    c.render.skeleton = c'.render.skeleton := by
  obtain ⟨next, -, rfl, -⟩ := h
  obtain ⟨next', -, rfl, -⟩ := h'
  exact skeleton_rebind_eq rfl rfl _ _

theorem pairs_eq (h : BoundInto others fields mode c t) (h' : BoundInto others fields mode c' t') :
    t.pairs = t'.pairs := by
  have key : ∀ {c : PatternConditions} {t : ParameterTable}, BoundInto others fields mode c t →
      t.pairs = others.pairs ++
        (Naming.uniqueNames others.names ((requests fields mode).map (·.1))).zip
          ((requests fields mode).map (·.2)) := by
    intro c t h
    obtain ⟨stored, hentries, -, hvalues, hnames⟩ := h.exists_entries
    rw [← hvalues, ← hnames, List.zip_map', ParameterTable.pairs, hentries, List.map_append]
    rfl
  rw [key h, key h']

end BoundInto

/-! ## Many changes of the mode -/

theorem mode_setMode (c : PatternConditions) (mode : ConditionMode) (s : Scope) :
    (c.setMode mode s).1.mode = mode := by
  unfold setMode
  split
  · assumption
  · exact mode_rebind _ s

end PatternConditions

/-- The mode that was asked for last. -/
def ConditionMode.last (start : ConditionMode) (steps : List (Nat × ConditionMode)) :
    ConditionMode :=
  (steps.map (·.2)).getLastD start

namespace PatternConditions

variable {fields : List (String × Json)} {mode : ConditionMode} {others : ParameterTable}

end PatternConditions

namespace Pattern

/-! ## Patterns -/

variable {shape : Shape} {args : PatternArguments} {p q : Pattern}

theorem mode_setMode (p : Pattern) (mode : ConditionMode) (next : Nat) :
    (p.setMode mode next).1.conditions.mode = mode :=
  PatternConditions.mode_setMode _ _ _

theorem Made.boundInto (h : Made shape args p) :
    PatternConditions.BoundInto .empty args.conditions p.conditions.mode p.conditions p.table := by
  induction h with
  | ofArguments next =>
    have hfirst : (Pattern.ofArguments shape args next).1.conditions.mode = .expanded :=
      PatternConditions.mode_rebind _ _
    rw [hfirst]
    exact PatternConditions.boundInto_bind (s := ⟨.empty, next⟩) (.nil next)
  | @setMode p mode next _ ih =>
    rw [mode_setMode]
    exact ih.setMode (.nil next) mode

/-- Whatever became of them before, patterns of the same arguments in the same mode have the same
text with blanks, and the same names and values. -/
theorem Made.same (hp : Made shape args p) (hq : Made shape args q)
    (hmode : p.conditions.mode = q.conditions.mode) :
    p.build.skeleton = q.build.skeleton ∧ p.table.pairs = q.table.pairs := by
  have hbound := hp.boundInto
  have hbound' := hq.boundInto
  rw [hmode] at hbound
  have hakin : Akin p q :=
    ⟨hp.keeps.shape.trans hq.keeps.shape.symm, hp.keeps.name.trans hq.keeps.name.symm,
      hp.keeps.labels.trans hq.keeps.labels.symm,
      by rw [hp.keeps.fields, hq.keeps.fields], hmode⟩
  exact ⟨hakin.skeleton_build (hbound.skeleton_eq hbound'), hbound.pairs_eq hbound'⟩

end Pattern

end GraphQuery
