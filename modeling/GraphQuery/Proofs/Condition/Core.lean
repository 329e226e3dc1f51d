import GraphQuery.Proofs.Condition.Rewriting

/-!
# The core of a condition

A group with one live child is rendered as that child, in the surroundings of the group. Going on
from single live child to single live child ends in one condition, the core, which is a leaf, a
negation or a group with several live children. `render_outer_brackets`: the core alone decides
whether the surroundings put brackets around the text, and they do nothing else to it.
-/

namespace GraphQuery

namespace Condition

variable {c d e : Condition}

/-! ## Single live children -/

def IsCore : Condition → Prop
  | .junction _ children => 2 ≤ (live children).length
  | _ => True

/-- Single live children lead from a condition down to the first core. -/
inductive LeadsTo : Condition → Condition → Prop
  | stop {c : Condition} : c.IsCore → LeadsTo c c
  | down {k : Connective} {children : List (String × Condition)} {child : String × Condition}
      {d : Condition} : live children = [child] → LeadsTo child.2 d →
      LeadsTo (junction k children) d

theorem not_isCore_of_lone {k : Connective} {children : List (String × Condition)}
    {child : String × Condition} (h : live children = [child]) : ¬ (junction k children).IsCore := by
  rw [IsCore, h]
  exact Nat.not_le.mpr Nat.one_lt_two

theorem LeadsTo.unique (hd : c.LeadsTo d) (he : c.LeadsTo e) : d = e := by
  induction hd with
  | stop hcore =>
    cases he with
    | stop _ => rfl
    | down hlive _ => exact absurd hcore (not_isCore_of_lone hlive)
  | down hlive _ ih =>
    cases he with
    | stop hcore => exact absurd hcore (not_isCore_of_lone hlive)
    | down hlive' he =>
      obtain rfl := List.singleton_inj.mp (hlive.symm.trans hlive')
      exact ih he

theorem exists_leadsTo (c : Condition) (h : c.isEmpty = false) : ∃ d, c.LeadsTo d := by
  induction c using liveInduction with
  | scalar v => exact ⟨_, .stop trivial⟩
  | compare comparator => exact ⟨_, .stop trivial⟩
  | bare k children hlive =>
    rw [isEmpty, live_eq_nil_iff.mp hlive] at h
    cases h
  | lone k children child hlive ih =>
    obtain ⟨d, hd⟩ := ih (isEmpty_of_mem_live (mem_live_of_lone hlive))
    exact ⟨d, .down hlive hd⟩
  | several k children hlive _ => exact ⟨_, .stop hlive⟩
  | not c _ => exact ⟨_, .stop trivial⟩

/-! ## Brackets around the text -/

/-- Whether a condition is a group whose connective binds less tightly than the surroundings. -/
def isLooserThan (outer : Precedence) : Condition → Bool
  | .junction k _ => k.precedence.rank < outer.rank
  | _ => false

theorem IsCore.bracketed_eq (h : c.IsCore) (hc : c.All Comparator.Writes) (outer : Precedence)
    (field : String) (s : Scope) : c.bracketed outer field s = c.isLooserThan outer := by
  cases c with
  | scalar v => rfl
  | compare comparator => rfl
  | junction k children =>
    have htwo : 2 ≤ (live children).length := h
    rw [bracketed_junction_of_two htwo, length_renderChildren hc.child, decide_eq_true htwo,
      Bool.true_and]
    rfl
  | not c => rfl

theorem LeadsTo.bracketed_eq (h : c.LeadsTo d) (hc : c.All Comparator.Writes) (outer : Precedence) :
    ∀ field s, c.bracketed outer field s = d.isLooserThan outer := by
  induction h with
  | stop hcore => exact hcore.bracketed_eq hc outer
  | @down k children child d hlive _ ih =>
    -- the child stays in the surroundings of the group; only its field is another
    intro field s
    rw [bracketed_junction_of_lone hlive]
    exact ih (hc.child child (mem_of_mem_live (mem_live_of_lone hlive))) _ _

/-- **The surroundings decide about one pair of brackets.** Single live children lead from a
condition that tests something down to exactly one core. What the condition stores does not depend
on its surroundings, and neither does its text, except that one pair of brackets is put around it
if the core is a group whose connective binds less tightly than they do. -/
theorem render_outer_brackets (c : Condition) (hc : c.All Comparator.Writes)
    (hne : c.isEmpty = false) (outer : Precedence) (field : String) (s : Scope) :
    ∃ d, (∀ e, c.LeadsTo e ↔ e = d) ∧
      c.render outer field s =
        (if d.isLooserThan outer then (c.render .none field s).1.parenthesized
          else (c.render .none field s).1, (c.render .none field s).2) := by
  obtain ⟨d, hd⟩ := c.exists_leadsTo hne
  refine ⟨d, fun e => ⟨fun he => he.unique hd, ?_⟩, ?_⟩
  · rintro rfl
    exact hd
  · rw [render_eq_bracketed, hd.bracketed_eq hc]

/-- "n.y = $y OR n.y = $y2", below three groups of one and beside one of none. -/
def buried : Condition :=
  .and [("", .xor []), ("n", .xor [.and [("y", alternatives)]])]

theorem render_outer_brackets_buried :
    buried.All Comparator.Writes ∧ buried.isEmpty = false ∧ buried.LeadsTo alternatives ∧
      buried.render .xor "" ⟨.empty, 1⟩ =
        ((buried.render .none "" ⟨.empty, 1⟩).1.parenthesized,
          (buried.render .none "" ⟨.empty, 1⟩).2) ∧
      buried.render .or "" ⟨.empty, 1⟩ = buried.render .none "" ⟨.empty, 1⟩ := by
  have hc : buried.All Comparator.Writes := by
    simp [buried, alternatives, Condition.and, Condition.or, Condition.xor, All, AllIn]
  have hleads : buried.LeadsTo alternatives :=
    .down rfl (.down rfl (.down rfl (.stop (Nat.le_refl 2))))
  obtain ⟨d, hd, hxor⟩ := render_outer_brackets buried hc rfl .xor "" ⟨.empty, 1⟩
  obtain ⟨e, he, hor⟩ := render_outer_brackets buried hc rfl .or "" ⟨.empty, 1⟩
  rw [← (hd _).mp hleads] at hxor
  rw [← (he _).mp hleads] at hor
  exact ⟨hc, rfl, hleads, hxor, hor⟩

end Condition

end GraphQuery
