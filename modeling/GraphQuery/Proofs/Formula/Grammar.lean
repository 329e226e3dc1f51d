import GraphQuery.Condition.Render

/-!
# The grammar of boolean text

A filter is read as a sequence of tokens in which every elementary test is one token. Negation
binds tighter than `AND`, `AND` than `XOR`, and `XOR` than `OR`; a chain of one connective groups
to the left. `Reads p ts f` says that `ts` can stand where an operand at level `p` is expected,
and then means `f`.
-/

namespace GraphQuery

inductive Token
  | test (index : Nat)
  | connective (c : Connective)
  | not
  | left
  | right
deriving DecidableEq, Repr

def Token.index? : Token → Option Nat
  | .test i => some i
  | _ => none

inductive Formula
  | test (index : Nat)
  | not (f : Formula)
  | join (c : Connective) (f g : Formula)
deriving DecidableEq, Repr

namespace Connective

def apply : Connective → Bool → Bool → Bool
  | .or => (· || ·)
  | .xor => (· ^^ ·)
  | .and => (· && ·)

/-- The level of the right operand in a chain. -/
def tighter : Connective → Precedence
  | .or => .xor
  | .xor => .and
  | .and => .not

theorem apply_assoc (c : Connective) (x y z : Bool) :
    c.apply (c.apply x y) z = c.apply x (c.apply y z) := by
  cases c <;> cases x <;> cases y <;> cases z <;> rfl

/-- The value of a chain without operands. -/
def unit : Connective → Bool
  | .or => false
  | .xor => false
  | .and => true

theorem unit_apply (c : Connective) (x : Bool) : c.apply c.unit x = x := by
  cases c <;> cases x <;> rfl

theorem apply_unit (c : Connective) (x : Bool) : c.apply x c.unit = x := by
  cases c <;> cases x <;> rfl

theorem rank_tighter (c : Connective) : c.tighter.rank = c.precedence.rank + 1 := by
  cases c <;> rfl

theorem rank_lt_not (c : Connective) : c.precedence.rank < Precedence.not.rank := by
  cases c <;> decide

theorem rank_inj {c d : Connective} (h : c.precedence.rank = d.precedence.rank) : c = d := by
  cases c <;> cases d <;> first | rfl | exact absurd h (by decide)

end Connective

theorem Precedence.rank_le_not (p : Precedence) : p.rank ≤ Precedence.not.rank := by
  cases p <;> decide

namespace Formula

def eval (ν : Nat → Bool) : Formula → Bool
  | .test i => ν i
  | .not f => !f.eval ν
  | .join c f g => c.apply (f.eval ν) (g.eval ν)

end Formula

/-! ## Chains -/

/-- A formula in which a chain of one connective is one node, however it was grouped. -/
inductive Flat
  | test (index : Nat)
  | not (t : Flat)
  | chain (c : Connective) (ts : List Flat)

namespace Flat

/-- The operands of a connective in a chain of it; what is no such chain is one operand. -/
def operands (c : Connective) : Flat → List Flat
  | .chain d ts => if d = c then ts else [.chain d ts]
  | t => [t]

@[simp] theorem operands_chain_self (c : Connective) (ts : List Flat) :
    (chain c ts).operands c = ts :=
  if_pos rfl

mutual

def eval (ν : Nat → Bool) : Flat → Bool
  | .test i => ν i
  | .not t => !t.eval ν
  | .chain c ts => evalChain ν c ts

def evalChain (ν : Nat → Bool) (c : Connective) : List Flat → Bool
  | [] => c.unit
  | t :: ts => c.apply (t.eval ν) (evalChain ν c ts)

end

theorem evalChain_append (ν : Nat → Bool) (c : Connective) (ts us : List Flat) :
    evalChain ν c (ts ++ us) = c.apply (evalChain ν c ts) (evalChain ν c us) := by
  induction ts with
  | nil => rw [List.nil_append, evalChain, c.unit_apply]
  | cons t ts ih => rw [List.cons_append, evalChain, evalChain, ih, c.apply_assoc]

theorem evalChain_operands (ν : Nat → Bool) (c : Connective) (t : Flat) :
    evalChain ν c (t.operands c) = t.eval ν := by
  have single : ∀ t, evalChain ν c [t] = t.eval ν := fun t => by
    rw [evalChain, evalChain, c.apply_unit]
  cases t with
  | test i => exact single _
  | not t => exact single _
  | chain d ts =>
    rw [operands]
    split
    · rename_i h
      rw [eval, h]
    · exact single _

end Flat

namespace Formula

def flatten : Formula → Flat
  | .test i => .test i
  | .not f => .not f.flatten
  | .join c f g => .chain c (f.flatten.operands c ++ g.flatten.operands c)

theorem eval_flatten (ν : Nat → Bool) (f : Formula) : f.flatten.eval ν = f.eval ν := by
  induction f with
  | test i => rfl
  | not f ih => rw [flatten, Flat.eval, eval, ih]
  | join c f g ihf ihg =>
    rw [flatten, Flat.eval, Flat.evalChain_append, Flat.evalChain_operands,
      Flat.evalChain_operands, eval, ihf, ihg]

theorem eval_eq_of_flatten_eq {f g : Formula} (h : f.flatten = g.flatten) (ν : Nat → Bool) :
    f.eval ν = g.eval ν := by
  rw [← eval_flatten, h, eval_flatten]

end Formula

/-! ## Reading tokens -/

/-- What a sequence of tokens means as an operand at a level. -/
inductive Reads : Precedence → List Token → Formula → Prop
  | test (i : Nat) : Reads .not [.test i] (.test i)
  | not {ts : List Token} {f : Formula} : Reads .not ts f → Reads .not (.not :: ts) (.not f)
  | brackets {ts : List Token} {f : Formula} :
      Reads .none ts f → Reads .not (.left :: (ts ++ [.right])) f
  | join {c : Connective} {ts us : List Token} {f g : Formula} :
      Reads c.precedence ts f → Reads c.tighter us g →
      Reads c.precedence (ts ++ .connective c :: us) (.join c f g)
  | weaken {p q : Precedence} {ts : List Token} {f : Formula} :
      Reads q ts f → p.rank ≤ q.rank → Reads p ts f

namespace Reads

theorem of_not {p : Precedence} {ts : List Token} {f : Formula} (h : Reads .not ts f) :
    Reads p ts f :=
  h.weaken p.rank_le_not

/-- Two chains of one connective make one chain of all their operands. -/
theorem chain_flatten {c : Connective} {ts us : List Token} {f g : Formula}
    (hf : Reads c.precedence ts f) (hg : Reads c.precedence us g) :
    ∃ k, Reads c.precedence (ts ++ .connective c :: us) k ∧
      k.flatten = (Formula.join c f g).flatten := by
  -- on the second chain, which is cut at its last connective
  suffices H : ∀ p us g, Reads p us g → c.precedence.rank ≤ p.rank →
      ∃ k, Reads c.precedence (ts ++ .connective c :: us) k ∧
        k.flatten = (Formula.join c f g).flatten from H _ us g hg (Nat.le_refl _)
  have single : ∀ us g, Reads c.tighter us g →
      ∃ k, Reads c.precedence (ts ++ .connective c :: us) k ∧
        k.flatten = (Formula.join c f g).flatten :=
    fun us g hg => ⟨.join c f g, .join hf hg, rfl⟩
  intro p us g hg
  induction hg with
  | test i => intro _; exact single _ _ (Reads.test i).of_not
  | not hg _ => intro _; exact single _ _ hg.not.of_not
  | brackets hg _ => intro _; exact single _ _ hg.brackets.of_not
  | @join d us₁ us₂ g₁ g₂ h₁ h₂ ih₁ _ =>
    intro hp
    by_cases hd : d = c
    · subst hd
      obtain ⟨k, hk, hflat⟩ := ih₁ (Nat.le_refl _)
      refine ⟨.join d k g₂, ?_, ?_⟩
      · have := hk.join h₂
        simpa using this
      · rw [Formula.flatten, hflat]
        simp only [Formula.flatten, Flat.operands_chain_self, List.append_assoc]
    · refine single _ _ ((h₁.join h₂).weaken ?_)
      have : c.precedence.rank ≠ d.precedence.rank := fun e => hd (Connective.rank_inj e).symm
      rw [Connective.rank_tighter]; omega
  | weaken _ hq ih => intro hp; exact ih (Nat.le_trans hp hq)

/-- The meaning of two chains put together does not depend on where they were cut. -/
theorem chain {c : Connective} {ts us : List Token} {f g : Formula}
    (hf : Reads c.precedence ts f) (hg : Reads c.precedence us g) :
    ∃ k, Reads c.precedence (ts ++ .connective c :: us) k ∧
      ∀ ν, k.eval ν = c.apply (f.eval ν) (g.eval ν) := by
  obtain ⟨k, hk, hflat⟩ := hf.chain_flatten hg
  exact ⟨k, hk, Formula.eval_eq_of_flatten_eq hflat⟩

end Reads

end GraphQuery
