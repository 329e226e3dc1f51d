import GraphQuery.Proofs.Fragment
import Mathlib.Data.List.Basic

/-!
# Values that have been stored

`Stores s hs s'`: between two scopes parameters were stored under `hs`, which are the next free
handles. A ledger has every value that was ever stored, at the place that its handle counts. Tables
are backed by it: whatever their parameters are called, the values are the ones in the ledger.
-/

namespace GraphQuery

namespace Scope

/-- From `s` to `s'` parameters were stored under `hs`, which are the next free handles. -/
structure Stores (s : Scope) (hs : List Handle) (s' : Scope) : Prop where
  entries : s.table.entries <+: s'.table.entries
  handles : s'.table.handles = s.table.handles ++ hs
  fresh : hs = (List.range' s.next hs.length).map Handle.mk
  next : s'.next = s.next + hs.length

section
variable {s s₁ s₂ : Scope} {hs hs' : List Handle}

theorem Stores.refl (s : Scope) : s.Stores [] s :=
  ⟨List.prefix_rfl, by simp, rfl, rfl⟩

theorem Stores.append (h : s.Stores hs s₁) (h' : s₁.Stores hs' s₂) : s.Stores (hs ++ hs') s₂ where
  entries := h.entries.trans h'.entries
  handles := by rw [h'.handles, h.handles, List.append_assoc]
  fresh := by
    have hsplit : List.range' s.next (hs ++ hs').length =
        List.range' s.next hs.length ++ List.range' s₁.next hs'.length := by
      rw [List.length_append, h.next, ← List.range'_append_1]
    rw [hsplit, List.map_append, ← h.fresh, ← h'.fresh]
  next := by rw [h'.next, h.next, List.length_append, Nat.add_assoc]

theorem allocate_stores (s : Scope) (value : Json) (requested : Option String) :
    s.Stores [(s.allocate value requested).1] (s.allocate value requested).2 where
  entries := List.prefix_append ..
  handles := ParameterTable.handles_adopt ..
  fresh := rfl
  next := rfl

theorem stores_text (s : Scope) (text : String) : s.Stores (Fragment.text text).handles s := by
  rw [Fragment.handles_text]
  exact .refl s

theorem Stores.text_append {f : Fragment} (h : s.Stores f.handles s₁) (text : String) :
    s.Stores (Fragment.text text ++ f).handles s₁ := by
  rw [Fragment.handles_append, Fragment.handles_text, List.nil_append]
  exact h

end

end Scope

/-! ## Merging -/

namespace ParameterTable

theorem handles_merge (t other : ParameterTable) :
    (t.merge other).handles = t.handles ++ other.handles := by
  have key : ∀ (ps : List Parameter) (t : ParameterTable),
      (ps.foldl adopt t).handles = t.handles ++ ps.map (·.handle) := by
    intro ps
    induction ps with
    | nil => simp
    | cons p ps ih => intro t; rw [List.foldl_cons, ih, handles_adopt]; simp
  exact key other.entries t

/-! ## Ledgers -/

/-- The values in a table are those that a ledger has for their handles. -/
def Backed (ledger : List Json) (t : ParameterTable) : Prop :=
  ∀ p ∈ t.entries, ledger[p.handle.index]? = some p.value

section
variable {ledger later : List Json} {t other : ParameterTable}

theorem Backed.empty (ledger : List Json) : Backed ledger .empty := by
  intro p hp
  cases hp

theorem Backed.mono (h : t.Backed ledger) (hle : ledger <+: later) : t.Backed later := by
  obtain ⟨more, rfl⟩ := hle
  intro p hp
  have hold := h p hp
  rwa [List.getElem?_append_left (List.getElem?_eq_some_iff.mp hold).1]

theorem Backed.adopt (h : t.Backed ledger) {p : Parameter}
    (hp : ledger[p.handle.index]? = some p.value) : (t.adopt p).Backed ledger := by
  intro q hq
  rcases List.mem_append.mp hq with hq | hq
  · exact h q hq
  · rw [List.mem_singleton] at hq
    subst hq
    exact hp

theorem Backed.merge (h : t.Backed ledger) (ho : other.Backed ledger) :
    (t.merge other).Backed ledger := by
  have key : ∀ (ps : List Parameter), (∀ p ∈ ps, ledger[p.handle.index]? = some p.value) →
      ∀ t : ParameterTable, t.Backed ledger →
        ParameterTable.Backed ledger (ps.foldl ParameterTable.adopt t) := by
    intro ps hps
    induction ps with
    | nil => exact fun t ht => ht
    | cons p ps ih =>
      intro t ht
      rw [List.foldl_cons]
      exact ih (fun q hq => hps q (List.mem_cons_of_mem _ hq)) _
        (ht.adopt (hps p (List.mem_cons_self ..)))
  exact key other.entries ho t h

theorem Backed.value_get? (h : t.Backed ledger) {k : Handle} (hk : k ∈ t.handles) :
    ∃ p, t.get? k = some p ∧ ledger[k.index]? = some p.value := by
  cases hp : t.get? k with
  | none =>
    obtain ⟨p, hmem, rfl⟩ := List.mem_map.mp hk
    simpa using List.find?_eq_none.mp hp p hmem
  | some p =>
    have hkey : p.handle = k := by simpa using List.find?_some hp
    refine ⟨p, rfl, ?_⟩
    rw [← hkey]
    exact h p (List.mem_of_find?_eq_some hp)

end

end ParameterTable

namespace Scope

/-- The next handle is the place after the last one of the ledger. -/
structure Backed (ledger : List Json) (s : Scope) : Prop where
  next : s.next = ledger.length
  values : s.table.Backed ledger

/-- What is stored goes to the end of the ledger. -/
theorem Stores.backed {s s' : Scope} {hs : List Handle} {ledger : List Json}
    (h : s.Stores hs s') (hb : s.Backed ledger) :
    ∃ later, ledger <+: later ∧ s'.Backed later := by
  obtain ⟨stored, hstored⟩ := h.entries
  have hhandles : stored.map (·.handle) = hs := by
    have happ := h.handles
    unfold ParameterTable.handles at happ
    rw [← hstored, List.map_append] at happ
    exact List.append_cancel_left happ
  have hlength : hs.length = stored.length := by rw [← hhandles, List.length_map]
  refine ⟨ledger ++ stored.map (·.value), List.prefix_append .., ?_, ?_⟩
  · rw [h.next, hb.next, hlength, List.length_append, List.length_map]
  · intro p hp
    rw [← hstored] at hp
    rcases List.mem_append.mp hp with hp | hp
    · exact (hb.values.mono (List.prefix_append ..)) p hp
    · obtain ⟨i, hi, rfl⟩ := List.getElem_of_mem hp
      have hindex : stored[i].handle.index = ledger.length + i := by
        have hget : (stored.map (·.handle))[i]? = some (Handle.mk (s.next + i)) := by
          rw [hhandles, h.fresh]
          simp [hlength, hi]
        rw [List.getElem?_map, List.getElem?_eq_getElem hi] at hget
        have heq : stored[i].handle = ⟨s.next + i⟩ := by simpa using hget
        rw [heq, hb.next]
      rw [hindex, List.getElem?_append_right (Nat.le_add_right ..)]
      simp [hi]

end Scope

end GraphQuery
