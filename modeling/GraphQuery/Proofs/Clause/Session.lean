import GraphQuery.Proofs.Clause.Filling
import GraphQuery.Proofs.Condition.Stores
import GraphQuery.Proofs.Pattern.Binding

/-!
# Building queries step by step

A session has all the patterns and clauses that were ever made, each of which may be used any number
of times. `Step` makes one more, or lets others take handles. `Reachable.backed`: one ledger is behind all of them.
`fill_statement_of_reachable`: a statement of any of the clauses says what they say.
-/

namespace GraphQuery

namespace Clause

variable {ledger : List Json}

def MadeFrom (ledger : List Json) (made : Clause × Nat) : Prop :=
  ∃ later, ledger <+: later ∧ made.2 = later.length ∧ made.1.Backed later

theorem ofArguments_made (shape : Shape) (args : PatternArguments) :
    MadeFrom ledger (ofPattern (Pattern.ofArguments shape args ledger.length).1,
      (Pattern.ofArguments shape args ledger.length).2) :=
  backed_of_stores (Pattern.ofArguments_stores shape args ledger.length) rfl

theorem setMode_made {p : Pattern} (hp : (ofPattern p).Backed ledger) (mode : ConditionMode) :
    MadeFrom ledger (ofPattern (p.setMode mode ledger.length).1,
      (p.setMode mode ledger.length).2) := by
  rcases Pattern.setMode_cases hp.handles mode ledger.length with hsame | hstores
  · rw [hsame]
    exact ⟨ledger, List.prefix_rfl, rfl, hp⟩
  · exact backed_of_stores hstores rfl

theorem filter_stores {c : Condition} (hc : c.All Comparator.IsBuiltIn) (next : Nat) :
    Scope.Stores ⟨.empty, next⟩ (filter c next).1.fragment.handles
      ⟨(filter c next).1.table, (filter c next).2⟩ := by
  have hstores := c.render_stores hc .none "" (.fresh next)
  unfold filter
  by_cases hempty : (c.render .none "" (.fresh next)).1.isEmpty
  · rw [Fragment.isEmpty_iff.mp hempty] at hstores
    simp only [hempty, if_true]
    exact hstores
  · simp only [hempty]
    exact hstores.text_append "WHERE "

theorem filter_made {c : Condition} (hc : c.All Comparator.IsBuiltIn) :
    MadeFrom ledger (filter c ledger.length) :=
  backed_of_stores (filter_stores hc ledger.length) rfl

/-! ## Paths -/

theorem path_backed (mode : ConditionMode) {ps : List Pattern} :
    ∀ {ledger : List Json} {s : Scope}, s.Backed ledger →
      (∀ p ∈ ps, (ofPattern p).Backed ledger) →
      ∃ later, ledger <+: later ∧ (path mode ps s).2.Backed later ∧
        (path mode ps s).2.table.handles = s.table.handles ++ (path mode ps s).1.handles := by
  induction ps with
  | nil => exact fun {ledger s} hs _ => ⟨ledger, List.prefix_rfl, hs, by simp [path]⟩
  | cons p ps ih =>
    intro ledger s hs hps
    obtain ⟨between, hle, hnext, hp⟩ := setMode_made (hps p (List.mem_cons_self ..)) mode
    rw [← hs.next] at hnext hp
    have hmerged : Scope.Backed between
        ⟨s.table.merge (p.setMode mode s.next).1.table, (p.setMode mode s.next).2⟩ :=
      ⟨hnext, (hs.values.mono hle).merge hp.values⟩
    obtain ⟨later, hle', hb, hhandles⟩ :=
      ih hmerged fun q hq => (hps q (List.mem_cons_of_mem _ hq)).mono hle
    refine ⟨later, hle.trans hle', hb, ?_⟩
    have hown : (p.setMode mode s.next).1.build.handles =
        (p.setMode mode s.next).1.table.handles := hp.handles
    unfold path
    rw [hhandles, ParameterTable.handles_merge, Fragment.handles_append, hown, List.append_assoc]

theorem paths_backed (mode : ConditionMode) {pss : List (List Pattern)} :
    ∀ {ledger : List Json} {s : Scope}, s.Backed ledger →
      (∀ ps ∈ pss, ∀ p ∈ ps, (ofPattern p).Backed ledger) →
      ∃ later, ledger <+: later ∧ (paths mode pss s).2.Backed later ∧
        (paths mode pss s).2.table.handles =
          s.table.handles ++ (paths mode pss s).1.flatMap Fragment.handles := by
  induction pss with
  | nil => exact fun {ledger s} hs _ => ⟨ledger, List.prefix_rfl, hs, by simp [paths]⟩
  | cons ps pss ih =>
    intro ledger s hs hpss
    obtain ⟨between, hle, hfirst, hhead⟩ := path_backed mode hs (hpss ps (List.mem_cons_self ..))
    obtain ⟨later, hle', hb, hrest⟩ :=
      ih hfirst fun qs hqs q hq => (hpss qs (List.mem_cons_of_mem _ hqs) q hq).mono hle
    refine ⟨later, hle.trans hle', hb, ?_⟩
    unfold paths
    rw [hrest, hhead, List.flatMap_cons, List.append_assoc]

theorem ofPaths_made (keyword : PatternKeyword) {pss : List (List Pattern)}
    (hpss : ∀ ps ∈ pss, ∀ p ∈ ps, (ofPattern p).Backed ledger) :
    MadeFrom ledger (ofPaths keyword pss ledger.length) := by
  have hfresh : (Scope.fresh ledger.length).Backed ledger := ⟨rfl, .empty ledger⟩
  obtain ⟨later, hle, hb, hhandles⟩ := paths_backed keyword.mode hfresh hpss
  refine ⟨later, hle, hb.next, ?_, hb.values⟩
  unfold ofPaths
  rw [hhandles]
  simp [Scope.fresh]

end Clause

/-! ## Sessions -/

structure Session where
  next : Nat
  patterns : List Pattern
  clauses : List Clause

namespace Session

def start : Session := ⟨1, [], []⟩

def addPattern (σ : Session) (made : Pattern × Nat) : Session :=
  { σ with next := made.2, patterns := made.1 :: σ.patterns }

def addClause (σ : Session) (made : Clause × Nat) : Session :=
  { σ with next := made.2, clauses := made.1 :: σ.clauses }

inductive Step : Session → Session → Prop
  | elsewhere (σ : Session) (handles : Nat) : Step σ { σ with next := σ.next + handles }
  | pattern (σ : Session) (shape : Shape) (args : PatternArguments) :
      Step σ (σ.addPattern (Pattern.ofArguments shape args σ.next))
  | mode (σ : Session) {p : Pattern} (mode : ConditionMode) : p ∈ σ.patterns →
      Step σ (σ.addPattern (p.setMode mode σ.next))
  | single (σ : Session) {p : Pattern} : p ∈ σ.patterns →
      Step σ (σ.addClause (.ofPattern p, σ.next))
  | paths (σ : Session) (keyword : PatternKeyword) {pss : List (List Pattern)} :
      (∀ ps ∈ pss, ∀ p ∈ ps, p ∈ σ.patterns) →
      Step σ (σ.addClause (Clause.ofPaths keyword pss σ.next))
  | filter (σ : Session) {c : Condition} : c.All Comparator.IsBuiltIn →
      Step σ (σ.addClause (Clause.filter c σ.next))
  | raw (σ : Session) (text : String) : Step σ (σ.addClause (.raw text, σ.next))
  | statement (σ : Session) {cs : List Clause} : (∀ c ∈ cs, c ∈ σ.clauses) →
      Step σ (σ.addClause ((Statement.ofClauses cs).toClause, σ.next))

inductive Reachable : Session → Prop
  | start : Reachable start
  | step {σ σ' : Session} : Reachable σ → Step σ σ' → Reachable σ'

/-- One ledger is behind all that has been made, and its end is the next free handle. -/
structure Backed (ledger : List Json) (σ : Session) : Prop where
  next : σ.next = ledger.length
  patterns : ∀ p ∈ σ.patterns, (Clause.ofPattern p).Backed ledger
  clauses : ∀ c ∈ σ.clauses, c.Backed ledger

variable {ledger : List Json} {σ σ' : Session}

theorem start_backed : Backed [.null] start where
  next := rfl
  patterns := by
    intro p hp
    cases hp
  clauses := by
    intro c hc
    cases hc

theorem Backed.addPattern (h : Backed ledger σ) {made : Pattern × Nat}
    (hmade : Clause.MadeFrom ledger (.ofPattern made.1, made.2)) :
    ∃ later, Backed later (σ.addPattern made) := by
  obtain ⟨later, hle, hnext, hp⟩ := hmade
  refine ⟨later, hnext, ?_, fun c hc => (h.clauses c hc).mono hle⟩
  intro q hq
  rcases List.mem_cons.mp hq with rfl | hq
  · exact hp
  · exact (h.patterns q hq).mono hle

theorem Backed.addClause (h : Backed ledger σ) {made : Clause × Nat}
    (hmade : Clause.MadeFrom ledger made) : ∃ later, Backed later (σ.addClause made) := by
  obtain ⟨later, hle, hnext, hc⟩ := hmade
  refine ⟨later, hnext, fun p hp => (h.patterns p hp).mono hle, ?_⟩
  intro d hd
  rcases List.mem_cons.mp hd with rfl | hd
  · exact hc
  · exact (h.clauses d hd).mono hle

theorem Backed.addKept (h : Backed ledger σ) {c : Clause} (hc : c.Backed ledger) :
    ∃ later, Backed later (σ.addClause (c, σ.next)) :=
  h.addClause ⟨ledger, List.prefix_rfl, h.next, hc⟩

theorem Backed.step (h : Backed ledger σ) (hstep : Step σ σ') : ∃ later, Backed later σ' := by
  cases hstep with
  | elsewhere handles =>
    -- what others have stored is of no concern here
    have hle : ledger <+: ledger ++ List.replicate handles .null := List.prefix_append ..
    refine ⟨_, ?_, fun p hp => (h.patterns p hp).mono hle, fun c hc => (h.clauses c hc).mono hle⟩
    rw [List.length_append, List.length_replicate, ← h.next]
  | pattern shape args =>
    refine h.addPattern ?_
    rw [h.next]
    exact Clause.ofArguments_made shape args
  | mode mode hp =>
    refine h.addPattern ?_
    rw [h.next]
    exact Clause.setMode_made (h.patterns _ hp) mode
  | single hp => exact h.addKept (h.patterns _ hp)
  | paths keyword hpss =>
    refine h.addClause ?_
    rw [h.next]
    exact Clause.ofPaths_made keyword fun ps hps p hp => h.patterns p (hpss ps hps p hp)
  | filter hc =>
    refine h.addClause ?_
    rw [h.next]
    exact Clause.filter_made hc
  | raw text => exact h.addKept (Clause.raw_backed ledger text)
  | statement hcs => exact h.addKept (Statement.ofClauses_backed fun c hc => h.clauses c (hcs c hc))

theorem Reachable.backed (h : Reachable σ) : ∃ ledger, Backed ledger σ := by
  induction h with
  | start => exact ⟨_, start_backed⟩
  | step _ hstep ih =>
    obtain ⟨ledger, hb⟩ := ih
    exact hb.step hstep

/-- **Renaming changes no value.** The text of a statement, with the values of its own table in
place of the handles, is made of the texts of its clauses one a line, each with the values of its
own table. -/
theorem fill_statement_of_reachable (h : Reachable σ) {cs : List Clause}
    (hcs : ∀ c ∈ cs, c ∈ σ.clauses) :
    ∃ parts, (Statement.written cs).mapM Clause.fill = some parts ∧
      (Statement.ofClauses cs).toClause.fill = some (List.intercalate [.char '\n'] parts) := by
  obtain ⟨ledger, hb⟩ := h.backed
  exact Statement.fill_ofClauses_of_backed fun c hc => hb.clauses c (hcs c hc)

def named : Pattern × Nat :=
  Pattern.ofArguments .node ⟨"n", ["Person"], [("name", .string "Ada")]⟩ start.next

def matched : Clause × Nat :=
  Clause.ofPaths .matching [[named.1]] named.2

def renamed : Clause × Nat :=
  Clause.filter (.and [("n.name", .scalar (.string "Eve"))]) matched.2

theorem fill_statement_of_reachable_renamed :
    (Statement.ofClauses [matched.1, renamed.1]).table.names = ["name", "name2"] ∧
      ∃ parts, (Statement.written [matched.1, renamed.1]).mapM Clause.fill = some parts ∧
        (Statement.ofClauses [matched.1, renamed.1]).toClause.fill =
          some (List.intercalate [.char '\n'] parts) := by
  have hreach : Reachable (((start.addPattern named).addClause matched).addClause renamed) := by
    have hnamed : Reachable (start.addPattern named) := .step .start (.pattern start _ _)
    have hmatched : Reachable ((start.addPattern named).addClause matched) := by
      refine hnamed.step (.paths _ .matching ?_)
      simp [addPattern]
    refine hmatched.step (.filter _ ?_)
    simp [Condition.and, Condition.All, Condition.AllIn]
  refine ⟨by decide +kernel, fill_statement_of_reachable hreach ?_⟩
  simp [addClause]

end Session

end GraphQuery
