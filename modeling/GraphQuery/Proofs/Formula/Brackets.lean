import GraphQuery.Proofs.Formula.Balance

/-!
# How many brackets a formula needs

Every junction that stands in tighter surroundings needs a pair of brackets. No text of a formula
has fewer pairs than that (`Reads.needed_le_count`), and where its chains are cut does not matter.
A text that has just as many loses its meaning with any one of them (`flatten_ne_of_unwrap`).
-/

namespace GraphQuery

namespace Flat

mutual

/-- The pairs of brackets that the surroundings of the junctions call for. -/
def needed (outer : Precedence) : Flat → Nat
  | .test _ => 0
  | .not t => t.needed .not
  | .chain c ts => neededIn c.precedence ts + if c.precedence.rank < outer.rank then 1 else 0

def neededIn (outer : Precedence) : List Flat → Nat
  | [] => 0
  | t :: ts => t.needed outer + neededIn outer ts

end

theorem neededIn_append (outer : Precedence) (ts us : List Flat) :
    neededIn outer (ts ++ us) = neededIn outer ts + neededIn outer us := by
  induction ts with
  | nil => rw [List.nil_append, neededIn, Nat.zero_add]
  | cons t ts ih => rw [List.cons_append, neededIn, neededIn, ih, Nat.add_assoc]

/-- A chain is not bracketed among the operands of its own connective. -/
theorem neededIn_operands (c : Connective) (t : Flat) :
    neededIn c.precedence (t.operands c) = t.needed c.precedence := by
  cases t with
  | test i => rfl
  | not t => rfl
  | chain d ts =>
    rw [operands]
    split
    · rename_i h
      rw [h, needed, if_neg (Nat.lt_irrefl _), Nat.add_zero]
    · rfl

theorem needed_mono {p q : Precedence} (h : p.rank ≤ q.rank) (t : Flat) :
    t.needed p ≤ t.needed q := by
  cases t with
  | test i => exact Nat.le_refl _
  | not t => exact Nat.le_refl _
  | chain c ts =>
    rw [needed, needed]
    split <;> split <;> omega

/-- Tighter surroundings call for one more pair at most. -/
theorem needed_le_succ (p q : Precedence) (t : Flat) : t.needed q ≤ t.needed p + 1 := by
  cases t with
  | test i => exact Nat.zero_le _
  | not t => exact Nat.le_succ _
  | chain c ts =>
    rw [needed, needed]
    split <;> split <;> omega

end Flat

theorem Formula.needed_flatten_join (outer : Precedence) (c : Connective) (f g : Formula) :
    (join c f g).flatten.needed outer =
      f.flatten.needed c.precedence + g.flatten.needed c.precedence +
        if c.precedence.rank < outer.rank then 1 else 0 := by
  rw [flatten, Flat.needed, Flat.neededIn_append, Flat.neededIn_operands, Flat.neededIn_operands]

theorem count_brackets (ts : List Token) :
    (Token.left :: (ts ++ [.right])).count .left = ts.count .left + 1 := by
  simp

theorem count_join (c : Connective) (ts us : List Token) :
    (ts ++ .connective c :: us).count Token.left = ts.count .left + us.count .left := by
  simp

/-- **No text has fewer brackets than its formula needs.** -/
theorem Reads.needed_le_count {p : Precedence} {ts : List Token} {f : Formula}
    (h : Reads p ts f) : f.flatten.needed p ≤ ts.count .left := by
  induction h with
  | test i => exact Nat.zero_le _
  | @not ts f _ ih =>
    rw [List.count_cons_of_ne (by decide)]
    exact ih
  | @brackets ts f _ ih =>
    -- the pair pays for what the level of a negation may call for
    rw [count_brackets]
    exact Nat.le_trans (Flat.needed_le_succ .none .not _) (Nat.succ_le_succ ih)
  | @join c ts us f g _ _ ihf ihg =>
    have hg : g.flatten.needed c.precedence ≤ g.flatten.needed c.tighter :=
      Flat.needed_mono (by rw [Connective.rank_tighter]; omega) _
    rw [count_join, Formula.needed_flatten_join, if_neg (Nat.lt_irrefl _)]
    omega
  | weaken _ hq ih => exact Nat.le_trans (Flat.needed_mono hq _) ih

/-- **No pair of brackets can be spared** where a text has no more of them than its formula
needs. -/
theorem Formula.flatten_ne_of_unwrap {xs ys zs : List Token} {f g : Formula}
    (hf : (xs ++ .left :: (ys ++ .right :: zs)).count .left = f.flatten.needed .none)
    (hg : Formula.parse (xs ++ (ys ++ zs)) = some g) : f.flatten ≠ g.flatten := by
  intro heq
  -- the text that is left would have one pair less than the formula needs
  have hle := (Formula.reads_of_parse hg).needed_le_count
  rw [← heq, ← hf] at hle
  have hright : Token.right ≠ .left := by decide
  simp only [List.count_append, List.count_cons_self, List.count_cons_of_ne hright] at hle
  omega

end GraphQuery
