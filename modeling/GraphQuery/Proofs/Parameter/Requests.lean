import GraphQuery.Proofs.Parameter.Ledger

/-!
# Values stored one after another

`Scope.storeAll` stores values in turn, each under a name that is derived from a request of its own.
The parameters that come of it stand behind the old ones, with the values as they were given and
the names as they were asked for one by one (`exists_entries_storeAll`).
-/

namespace GraphQuery

/-- Names for several requests, each apart from the existing names and from those before it. -/
def Naming.uniqueNames (existing : List String) : List String → List String
  | [] => []
  | requested :: rest =>
    uniqueName requested existing :: uniqueNames (existing ++ [uniqueName requested existing]) rest

namespace Scope

/-- Stores values in turn, each under the name that its request comes to. -/
def storeAll : List (String × Json) → Scope → List Handle × Scope
  | [], s => ([], s)
  | (requested, v) :: rest, s =>
    let first := s.allocate v (some requested)
    let others := storeAll rest first.2
    (first.1 :: others.1, others.2)

variable {s : Scope}

theorem storeAll_append (rs rs' : List (String × Json)) : ∀ s : Scope, storeAll (rs ++ rs') s =
    ((storeAll rs s).1 ++ (storeAll rs' (storeAll rs s).2).1,
      (storeAll rs' (storeAll rs s).2).2) := by
  induction rs with
  | nil => intro s; rfl
  | cons r rs ih =>
    obtain ⟨requested, v⟩ := r
    intro s
    simp only [List.cons_append, storeAll, ih]

theorem storeAll_stores (rs : List (String × Json)) : ∀ s : Scope,
    s.Stores (storeAll rs s).1 (storeAll rs s).2 := by
  induction rs with
  | nil => exact fun s => .refl s
  | cons r rs ih =>
    obtain ⟨requested, v⟩ := r
    intro s
    exact (s.allocate_stores v (some requested)).append (ih (s.allocate v (some requested)).2)

theorem length_storeAll (rs : List (String × Json)) : ∀ s : Scope,
    (storeAll rs s).1.length = rs.length := by
  induction rs with
  | nil => exact fun s => rfl
  | cons r rs ih => exact fun s => congrArg (· + 1) (ih _)

theorem exists_entries_storeAll (rs : List (String × Json)) : ∀ s : Scope,
    ∃ stored, (storeAll rs s).2.table.entries = s.table.entries ++ stored ∧
      stored.map (·.handle) = (storeAll rs s).1 ∧ stored.map (·.value) = rs.map (·.2) ∧
      stored.map (·.name) = Naming.uniqueNames s.table.names (rs.map (·.1)) := by
  induction rs with
  | nil => exact fun s => ⟨[], by simp [storeAll], rfl, rfl, rfl⟩
  | cons r rs ih =>
    obtain ⟨requested, v⟩ := r
    intro s
    obtain ⟨stored, hentries, hhandles, hvalues, hnames⟩ := ih (s.allocate v (some requested)).2
    refine ⟨⟨⟨s.next⟩, Naming.uniqueName requested s.table.names, v⟩ :: stored, ?_, ?_, ?_, ?_⟩
    · rw [storeAll, hentries]
      simp [allocate, ParameterTable.adopt]
    · rw [List.map_cons, hhandles]
      rfl
    · rw [List.map_cons, hvalues]
      rfl
    · rw [List.map_cons, hnames]
      simp [Naming.uniqueNames, allocate]

end Scope

end GraphQuery
