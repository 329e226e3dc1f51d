import GraphQuery.Clause
import GraphQuery.Proofs.Condition.Stores
import GraphQuery.Proofs.Pattern.Binding
import Mathlib.Data.List.Perm.Basic

/-!
# Handles that are held once

`Apart next hs`: the handles `hs`, which are held in various places, have been given out and none
of them twice. What is stored anew is apart from what is held already, so patterns that change
their mode and paths that take patterns over keep all handles apart.
-/

namespace GraphQuery

/-- Handles that have been given out, none of them twice. -/
structure Apart (next : Nat) (hs : List Handle) : Prop where
  nodup : hs.Nodup
  below : ∀ h ∈ hs, h.index < next

namespace Apart

variable {next next' : Nat} {hs others : List Handle}

theorem nil (next : Nat) : Apart next [] :=
  ⟨List.nodup_nil, fun _ h => absurd h List.not_mem_nil⟩

theorem later (h : Apart next hs) (hle : next ≤ next') : Apart next' hs :=
  ⟨h.nodup, fun k hk => Nat.lt_of_lt_of_le (h.below k hk) hle⟩

theorem perm (h : Apart next hs) (hperm : hs.Perm others) : Apart next others :=
  ⟨hperm.nodup_iff.mp h.nodup, fun k hk => h.below k (hperm.mem_iff.mpr hk)⟩

theorem of_sublist (h : Apart next hs) (hsub : others.Sublist hs) : Apart next others :=
  ⟨h.nodup.sublist hsub, fun k hk => h.below k (hsub.subset hk)⟩

theorem of_append (h : Apart next (hs ++ others)) : Apart next others :=
  h.of_sublist (List.sublist_append_right ..)

theorem stores {s s' : Scope} (h : Apart s.next others) (hstores : s.Stores hs s') :
    Apart s'.next (hs ++ others) := by
  have hnew : ∀ k ∈ hs, s.next ≤ k.index ∧ k.index < s.next + hs.length := by
    intro k hk
    rw [hstores.fresh] at hk
    obtain ⟨i, hi, rfl⟩ := List.mem_map.mp hk
    exact List.mem_range'_1.mp hi
  have hnodup : hs.Nodup := by
    rw [hstores.fresh]
    exact List.Pairwise.map _ (fun _ _ hne heq => hne (congrArg Handle.index heq))
      List.nodup_range'
  refine ⟨?_, ?_⟩
  · rw [List.nodup_append]
    refine ⟨hnodup, h.nodup, fun a ha b hb hab => ?_⟩
    have hold := h.below b hb
    rw [← hab] at hold
    exact absurd (hnew a ha).1 (Nat.not_le_of_lt hold)
  · intro k hk
    rw [hstores.next]
    rcases List.mem_append.mp hk with hk | hk
    · exact (hnew k hk).2
    · exact Nat.lt_of_lt_of_le (h.below k hk) (Nat.le_add_right ..)

theorem storesFresh {t : ParameterTable} (h : Apart next others)
    (hstores : Scope.Stores ⟨.empty, next⟩ hs ⟨t, next'⟩) : Apart next' (t.handles ++ others) := by
  have hhandles := hstores.handles
  rw [ParameterTable.handles_empty, List.nil_append] at hhandles
  rw [hhandles]
  exact h.stores hstores

theorem filter (h : Apart next others) {c : Condition} (hc : c.All Comparator.IsBuiltIn) :
    Apart (Clause.filter c next).2 ((Clause.filter c next).1.table.handles ++ others) :=
  h.storesFresh (c.render_stores hc .none "" (.fresh next))

/-! ## Patterns -/

theorem ofArguments (h : Apart next others) (shape : Shape) (args : PatternArguments) :
    Apart (Pattern.ofArguments shape args next).2
      ((Pattern.ofArguments shape args next).1.table.handles ++ others) :=
  h.storesFresh (Pattern.ofArguments_stores shape args next)

theorem setMode {p : Pattern} (hp : p.build.handles = p.table.handles)
    (h : Apart next (p.table.handles ++ others)) (mode : ConditionMode) :
    Apart (p.setMode mode next).2 ((p.setMode mode next).1.table.handles ++ others) := by
  rcases Pattern.setMode_cases hp mode next with hsame | hstores
  · rw [hsame]
    exact h
  · exact h.of_append.storesFresh hstores

theorem path (mode : ConditionMode) {ps : List Pattern}
    (hps : ∀ p ∈ ps, p.build.handles = p.table.handles) : ∀ {s : Scope},
      Apart s.next (s.table.handles ++ (ps.flatMap (·.table.handles) ++ others)) →
        Apart (Clause.path mode ps s).2.next
          ((Clause.path mode ps s).2.table.handles ++ others) := by
  induction ps with
  | nil => exact fun {s} h => h
  | cons p ps ih =>
    intro s h
    rw [List.flatMap_cons, List.append_assoc] at h
    have hfirst := setMode (hps p (List.mem_cons_self ..))
      (h.perm (List.perm_append_comm_assoc ..)) mode
    refine ih (fun q hq => hps q (List.mem_cons_of_mem _ hq)) ?_
    rw [ParameterTable.handles_merge, List.append_assoc]
    exact hfirst.perm (List.perm_append_comm_assoc ..)

theorem paths (mode : ConditionMode) {pss : List (List Pattern)}
    (hpss : ∀ ps ∈ pss, ∀ p ∈ ps, p.build.handles = p.table.handles) : ∀ {s : Scope},
      Apart s.next (s.table.handles ++ (pss.flatten.flatMap (·.table.handles) ++ others)) →
        Apart (Clause.paths mode pss s).2.next
          ((Clause.paths mode pss s).2.table.handles ++ others) := by
  induction pss with
  | nil => exact fun {s} h => h
  | cons ps pss ih =>
    intro s h
    rw [List.flatten_cons, List.flatMap_append, List.append_assoc] at h
    exact ih (fun qs hqs => hpss qs (List.mem_cons_of_mem _ hqs))
      (path mode (hpss ps (List.mem_cons_self ..)) h)

end Apart

end GraphQuery
