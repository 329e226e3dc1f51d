import GraphQuery.Proofs.Clause.Alike

/-!
# Values never reach the text

A session is the run of a list of instructions. Blanking takes the values out of the instructions
and leaves out what others do in between; instructions that are the same when blanked have the same
shape. `sameQuery_of_blank_eq`: clauses made by instructions of the same shape compile to the same
script, and to values under the same names.
-/

namespace GraphQuery

namespace Session

/-- One thing done in a session. Patterns and clauses are given by their places, the last one that
was made having place zero; a place where nothing is counts for nothing. -/
inductive Instruction
  | elsewhere (handles : Nat)
  | pattern (shape : Shape) (args : PatternArguments)
  | mode (place : Nat) (mode : ConditionMode)
  | single (place : Nat)
  | paths (keyword : PatternKeyword) (places : List (List Nat))
  | condition (outer : Precedence) (field : String) (c : Condition)
  | filter (c : Condition)
  | raw (text : String)
  | statement (places : List Nat)

namespace Instruction

/-- An instruction without its values, if it is one of this session. -/
def blank : Instruction → Option Instruction
  | .elsewhere _ => none
  | .pattern shape args => some (.pattern shape args.blank)
  | .condition outer field c => some (.condition outer field c.blank)
  | .filter c => some (.filter c.blank)
  | i => some i

/-- No comparator in it is supplied by a caller. -/
def IsBuiltIn : Instruction → Prop
  | .condition _ _ c => c.All Comparator.IsBuiltIn
  | .filter c => c.All Comparator.IsBuiltIn
  | _ => True

theorem isBuiltIn_blank {i j : Instruction} (h : i.blank = some j) : j.IsBuiltIn ↔ i.IsBuiltIn := by
  cases i with
  | elsewhere handles => cases h
  | condition outer field c => cases h; exact c.all_blank_iff
  | filter c => cases h; exact c.all_blank_iff
  | _ => cases h; rfl

end Instruction

def pick {α : Type} (made : List α) (places : List Nat) : List α :=
  places.filterMap (made[·]?)

def perform (σ : Session) : Instruction → Session
  | .elsewhere handles => { σ with next := σ.next + handles }
  | .pattern shape args => σ.addPattern (Pattern.ofArguments shape args σ.next)
  | .mode place mode =>
    match σ.patterns[place]? with
    | some p => σ.addPattern (p.setMode mode σ.next)
    | none => σ
  | .single place =>
    match σ.patterns[place]? with
    | some p => σ.addClause (.ofPattern p, σ.next)
    | none => σ
  | .paths keyword places =>
    σ.addClause (Clause.ofPaths keyword (places.map (pick σ.patterns)) σ.next)
  | .condition outer field c => σ.addClause (Clause.ofCondition outer field c σ.next)
  | .filter c => σ.addClause (Clause.filter c σ.next)
  | .raw text => σ.addClause (.raw text, σ.next)
  | .statement places =>
    σ.addClause ((Statement.ofClauses (pick σ.clauses places)).toClause, σ.next)

def run (is : List Instruction) : Session :=
  is.foldl perform start

/-! ## One session -/

section
variable {α : Type} {made : List α}

theorem mem_of_mem_pick {places : List Nat} {a : α} (h : a ∈ pick made places) : a ∈ made := by
  obtain ⟨place, -, hplace⟩ := List.mem_filterMap.mp h
  exact List.mem_of_getElem? hplace

theorem mem_of_mem_pick_map {places : List (List Nat)} :
    ∀ as ∈ places.map (pick made), ∀ a ∈ as, a ∈ made := by
  intro as has a ha
  obtain ⟨_, -, rfl⟩ := List.mem_map.mp has
  exact mem_of_mem_pick ha

end

variable {ledger ledger' : List Json} {σ τ : Session} {i j : Instruction}

theorem Backed.perform (h : Backed ledger σ) (hi : i.IsBuiltIn) :
    ∃ later, Backed later (σ.perform i) := by
  cases i with
  | elsewhere handles => exact h.step (.elsewhere σ handles)
  | pattern shape args => exact h.step (.pattern σ shape args)
  | mode place mode =>
    cases hp : σ.patterns[place]? with
    | none =>
      simp only [Session.perform, hp]
      exact ⟨ledger, h⟩
    | some p =>
      simp only [Session.perform, hp]
      exact h.step (.mode σ mode (List.mem_of_getElem? hp))
  | single place =>
    cases hp : σ.patterns[place]? with
    | none =>
      simp only [Session.perform, hp]
      exact ⟨ledger, h⟩
    | some p =>
      simp only [Session.perform, hp]
      exact h.step (.single σ (List.mem_of_getElem? hp))
  | paths keyword places => exact h.step (.paths σ keyword mem_of_mem_pick_map)
  | condition outer field c =>
    refine h.addClause ?_
    rw [h.next]
    exact Clause.backed_of_stores (c.render_stores hi outer field (.fresh ledger.length)) rfl
  | filter c => exact h.step (.filter σ hi)
  | raw text => exact h.step (.raw σ text)
  | statement places => exact h.step (.statement σ fun c hc => mem_of_mem_pick hc)

theorem exists_backed_run {is : List Instruction} (his : ∀ i ∈ is, i.IsBuiltIn) :
    ∃ ledger, Backed ledger (run is) := by
  have key : ∀ σ : Session, (∃ ledger, Backed ledger σ) →
      ∃ ledger, Backed ledger (is.foldl Session.perform σ) := by
    induction is with
    | nil => exact fun σ h => h
    | cons i is ih =>
      rintro σ ⟨ledger, h⟩
      rw [List.forall_mem_cons] at his
      exact ih his.2 _ (h.perform his.1)
  exact key start ⟨_, start_backed⟩

/-! ## Two sessions -/

structure Alike (ρ : Handle → Handle → Prop) (σ τ : Session) : Prop where
  pairing : Pairing ρ σ.next τ.next
  patterns : List.Forall₂ (Pattern.Alike ρ) σ.patterns τ.patterns
  clauses : List.Forall₂ (Clause.Alike ρ) σ.clauses τ.clauses

theorem getElem?_cases {α β : Type} {R : α → β → Prop} {as : List α} {bs : List β}
    (h : List.Forall₂ R as bs) : ∀ place : Nat,
      (as[place]? = none ∧ bs[place]? = none) ∨
        ∃ a b, as[place]? = some a ∧ bs[place]? = some b ∧ R a b := by
  induction h with
  | nil => exact fun place => .inl ⟨rfl, rfl⟩
  | @cons a b as bs hab _ ih =>
    intro place
    cases place with
    | zero => exact .inr ⟨a, b, rfl, rfl, hab⟩
    | succ place => exact ih place

theorem forall₂_pick {α β : Type} {R : α → β → Prop} {as : List α} {bs : List β}
    (h : List.Forall₂ R as bs) (places : List Nat) :
    List.Forall₂ R (pick as places) (pick bs places) := by
  unfold pick
  induction places with
  | nil => exact .nil
  | cons place places ih =>
    rcases getElem?_cases h place with ⟨ha, hb⟩ | ⟨a, b, ha, hb, hab⟩
    · rw [List.filterMap_cons_none ha, List.filterMap_cons_none hb]
      exact ih
    · rw [List.filterMap_cons_some ha, List.filterMap_cons_some hb]
      exact .cons hab ih

variable {ρ : Handle → Handle → Prop}

theorem Alike.addPattern (h : Alike ρ σ τ) {made made' : Pattern × Nat}
    (hmade : ∃ ρ', ρ ≤ ρ' ∧ Pairing ρ' made.2 made'.2 ∧ made.1.Alike ρ' made'.1) :
    ∃ ρ', Alike ρ' (σ.addPattern made) (τ.addPattern made') := by
  obtain ⟨ρ', hle, hpairing, halike⟩ := hmade
  exact ⟨ρ', hpairing, .cons halike (h.patterns.imp fun _ _ hold => hold.mono hle),
    h.clauses.imp fun _ _ hold => hold.mono hle⟩

theorem Alike.addClause (h : Alike ρ σ τ) {made made' : Clause × Nat}
    (hmade : Clause.MadeAlike ρ made made') :
    ∃ ρ', Alike ρ' (σ.addClause made) (τ.addClause made') := by
  obtain ⟨ρ', hle, hpairing, halike⟩ := hmade
  exact ⟨ρ', hpairing, h.patterns.imp fun _ _ hold => hold.mono hle,
    .cons halike (h.clauses.imp fun _ _ hold => hold.mono hle)⟩

theorem Alike.addKept (h : Alike ρ σ τ) {c d : Clause} (hcd : c.Alike ρ d) :
    ∃ ρ', Alike ρ' (σ.addClause (c, σ.next)) (τ.addClause (d, τ.next)) :=
  h.addClause ⟨ρ, le_refl ρ, h.pairing, hcd⟩

/-- The same thing is done with other values. -/
theorem Alike.perform (h : Alike ρ σ τ) (hσ : Backed ledger σ) (hτ : Backed ledger' τ)
    (hi : i.IsBuiltIn) (hj : i.blank = some j) : ∃ ρ', Alike ρ' (σ.perform i) (τ.perform j) := by
  cases i with
  | elsewhere handles => cases hj
  | pattern shape args =>
    cases hj
    exact h.addPattern (Pattern.alike_ofArguments h.pairing shape args)
  | mode place mode =>
    cases hj
    rcases getElem?_cases h.patterns place with ⟨hp, hq⟩ | ⟨p, q, hp, hq, hpq⟩
    · simp only [Session.perform, hp, hq]
      exact ⟨ρ, h⟩
    · simp only [Session.perform, hp, hq]
      have hown := (hσ.patterns p (List.mem_of_getElem? hp)).handles
      have hown' := (hτ.patterns q (List.mem_of_getElem? hq)).handles
      exact h.addPattern (hpq.setMode h.pairing hown hown' mode)
  | single place =>
    cases hj
    rcases getElem?_cases h.patterns place with ⟨hp, hq⟩ | ⟨p, q, hp, hq, hpq⟩
    · simp only [Session.perform, hp, hq]
      exact ⟨ρ, h⟩
    · simp only [Session.perform, hp, hq]
      exact h.addKept ⟨hpq.skeleton_build, hpq.table⟩
  | paths keyword places =>
    cases hj
    refine h.addClause (Clause.ofPaths_alike keyword h.pairing ?_ ?_ ?_)
    · exact fun ps hps p hp => (hσ.patterns p (mem_of_mem_pick_map ps hps p hp)).handles
    · exact fun qs hqs q hq => (hτ.patterns q (mem_of_mem_pick_map qs hqs q hq)).handles
    · rw [List.forall₂_map_left_iff, List.forall₂_map_right_iff, List.forall₂_same]
      exact fun places _ => forall₂_pick h.patterns places
  | condition outer field c =>
    cases hj
    exact h.addClause (Clause.ofCondition_alike hi h.pairing outer field)
  | filter c =>
    cases hj
    exact h.addClause (Clause.filter_alike hi h.pairing)
  | raw text =>
    cases hj
    exact h.addKept ⟨rfl, .empty ρ⟩
  | statement places =>
    cases hj
    exact h.addKept (Statement.ofClauses_alike (forall₂_pick h.clauses places))

theorem exists_alike_run {is : List Instruction} (his : ∀ i ∈ is, i.IsBuiltIn) :
    ∃ ρ, Alike ρ (run is) (run (is.filterMap Instruction.blank)) := by
  have key : ∀ {σ τ : Session}, (∃ ledger, Backed ledger σ) → (∃ ledger, Backed ledger τ) →
      (∃ ρ, Alike ρ σ τ) → ∃ ρ, Alike ρ (is.foldl Session.perform σ)
        ((is.filterMap Instruction.blank).foldl Session.perform τ) := by
    induction is with
    | nil => exact fun _ _ h => h
    | cons i is ih =>
      rintro σ τ ⟨ledger, hσ⟩ ⟨ledger', hτ⟩ ⟨ρ, h⟩
      rw [List.forall_mem_cons] at his
      cases hj : i.blank with
      | none =>
        -- only what is done elsewhere is left out, and it takes handles in one of the sessions
        rw [List.filterMap_cons_none hj]
        cases i with
        | elsewhere handles =>
          have hpairing : Pairing ρ (σ.next + handles) (τ.next + 0) := h.pairing.later
          exact ih his.2 (hσ.perform his.1) ⟨ledger', hτ⟩ ⟨ρ, hpairing, h.patterns, h.clauses⟩
        | _ => cases hj
      | some j =>
        rw [List.filterMap_cons_some hj]
        have hbuilt : j.IsBuiltIn := (Instruction.isBuiltIn_blank hj).mpr his.1
        exact ih his.2 (hσ.perform his.1) (hτ.perform hbuilt) (h.perform hσ hτ his.1 hj)
  exact key ⟨_, start_backed⟩ ⟨_, start_backed⟩ ⟨_, .start, .nil, .nil⟩

theorem sameQuery_run_blank {is : List Instruction} (his : ∀ i ∈ is, i.IsBuiltIn) :
    List.Forall₂ Clause.SameQuery (run is).clauses
      (run (is.filterMap Instruction.blank)).clauses := by
  have hblank : ∀ j ∈ is.filterMap Instruction.blank, j.IsBuiltIn := by
    intro j hj
    obtain ⟨i, hi, hij⟩ := List.mem_filterMap.mp hj
    exact (Instruction.isBuiltIn_blank hij).mpr (his i hi)
  obtain ⟨ledger, hσ⟩ := exists_backed_run his
  obtain ⟨ledger', hτ⟩ := exists_backed_run hblank
  obtain ⟨ρ, h⟩ := exists_alike_run his
  have howned := List.forall₂_iff_get.mp h.clauses
  refine List.forall₂_iff_get.mpr ⟨howned.1, fun place hc hd => ?_⟩
  exact (howned.2 place hc hd).sameQuery h.pairing (hσ.clauses _ (List.get_mem ..)).handles
    (hτ.clauses _ (List.get_mem ..)).handles

/-- **Values never reach the text.** Let two lists of instructions differ in values only: in those
of conditions, of operands that are not references and of the conditions of patterns, and in what
others do in between. Then the clauses that are made at the same point, among them whole statements
and texts of single conditions and patterns, compile to the same script, and their tables have the
same names in the same order. -/
theorem sameQuery_of_blank_eq {is js : List Instruction}
    (hshape : is.filterMap Instruction.blank = js.filterMap Instruction.blank)
    (his : ∀ i ∈ is, i.IsBuiltIn) :
    List.Forall₂ Clause.SameQuery (run is).clauses (run js).clauses := by
  have hjs : ∀ j ∈ js, j.IsBuiltIn := by
    intro j hj
    cases hb : j.blank with
    | none =>
      cases j with
      | elsewhere handles => trivial
      | _ => cases hb
    | some b =>
      have hmem : b ∈ is.filterMap Instruction.blank := by
        rw [hshape]
        exact List.mem_filterMap.mpr ⟨j, hj, hb⟩
      obtain ⟨i, hi, hib⟩ := List.mem_filterMap.mp hmem
      exact (Instruction.isBuiltIn_blank hb).mp ((Instruction.isBuiltIn_blank hib).mpr (his i hi))
  have hleft := List.forall₂_iff_get.mp (sameQuery_run_blank his)
  have hright := sameQuery_run_blank hjs
  rw [← hshape] at hright
  have hright := List.forall₂_iff_get.mp hright
  refine List.forall₂_iff_get.mpr ⟨hleft.1.trans hright.1.symm, fun place hc hd => ?_⟩
  exact (hleft.2 place hc (hleft.1 ▸ hc)).through (hright.2 place hd (hleft.1 ▸ hc))

/-- A node in a clause of its own and again in condensed mode, between tests for a range, for a
value and for another field, in a statement within a statement. -/
def search (handles : Nat) (name lower upper town : Json) : List Instruction :=
  [.elsewhere handles, .pattern .node ⟨"n", ["Person"], [("name", name)]⟩, .mode 0 .condensed,
    .paths .matching [[1], [0, 0]], .paths .creating [[0]],
    .filter (.and [("n.age", .not (.compare (.between (.value lower) (.value upper) true false))),
      ("n.town", .or [.scalar town, .compare (.binary .equals (.reference "m.town"))])]),
    .statement [2, 0], .raw "RETURN n", .statement [1, 3, 0]]

theorem sameQuery_of_blank_eq_search :
    (run (search 0 (.string "Ada") (.bool true) .null (.string "Ulm"))).clauses.head?.map
        (·.table.names) =
      some ["name", "name2", "name3", "lowerAge", "upperAge", "town", "conditions"] ∧
    List.Forall₂ Clause.SameQuery
      (run (search 0 (.string "Ada") (.bool true) .null (.string "Ulm"))).clauses
      (run (search 5 (.array []) .null (.string "$x OR true") (.object [("a", .null)]))).clauses := by
  refine ⟨by decide +kernel, sameQuery_of_blank_eq rfl ?_⟩
  simp [search, Instruction.IsBuiltIn, Condition.and, Condition.or, Condition.All, Condition.AllIn,
    Comparator.IsBuiltIn]

end Session

end GraphQuery
