import GraphQuery.Proofs.Condition.Level
import GraphQuery.Proofs.Condition.Reading
import GraphQuery.Proofs.Formula.Brackets

/-!
# No pair of brackets can be spared

Here the text of every comparator, a range too, is one test. The brackets in the text of a
condition are then just those that its reading needs, and with any matching pair taken out the text
is read as something else (`render_brackets_needed`).
-/

namespace GraphQuery

/-! ## The brackets of an outline -/

namespace Outline

def hasRange : Outline → Bool
  | .test _ => false
  | .range _ => true
  | .not o => o.hasRange
  | .join _ o r => o.hasRange || r.hasRange

theorem splitsRange_of_hasRange {o : Outline} (h : o.hasRange = false) :
    ∀ negated, o.splitsRange negated = false := by
  induction o with
  | test n => intro _; rfl
  | range n => cases h
  | not o ih => intro negated; exact ih h (!negated)
  | join k o r iho ihr =>
    intro _
    rw [hasRange, Bool.or_eq_false_iff] at h
    rw [splitsRange, iho h.1, ihr h.2]
    rfl

/-- **An outline has the brackets that its reading needs**, and no others. -/
theorem count_left_tokens {o : Outline} (h : o.hasRange = false) : ∀ outer : Precedence,
    ∃ f, Reads outer (o.tokens outer) f ∧
      (o.tokens outer).count .left = f.flatten.needed outer := by
  induction o with
  | test n => intro outer; exact ⟨_, (Reads.test n).of_not, rfl⟩
  | range n => cases h
  | not o ih =>
    intro outer
    obtain ⟨f, hf, hcount⟩ := ih h .not
    refine ⟨.not f, hf.not.of_not, ?_⟩
    rw [tokens, List.count_cons_of_ne (by decide), hcount]
    rfl
  | join k o r iho ihr =>
    intro outer
    rw [hasRange, Bool.or_eq_false_iff] at h
    obtain ⟨f, hf, hcountf⟩ := iho h.1 k.precedence
    obtain ⟨g, hg, hcountg⟩ := ihr h.2 k.precedence
    obtain ⟨u, hu, hflat⟩ := hf.chain_flatten hg
    -- both parts are chains at the level of the junction, which has one pair of its own at most
    refine ⟨u, ?_, ?_⟩
    · rw [tokens]
      split
      · exact (hu.weaken (Nat.zero_le _)).brackets.of_not
      · exact hu.weaken (by omega)
    · rw [hflat, Formula.needed_flatten_join, tokens]
      split
      · rw [count_brackets, count_join, hcountf, hcountg]
      · rw [count_join, hcountf, hcountg, Nat.add_zero]

end Outline

theorem Connective.chain_hasRange {k : Connective} {os : List Outline}
    (h : ∀ o ∈ os, o.hasRange = false) : ∀ r, k.chain os = some r → r.hasRange = false := by
  induction os with
  | nil => intro r hr; cases hr
  | cons o rest ih =>
    intro r hr
    have ho := h o (List.mem_cons_self ..)
    rw [chain] at hr
    split at hr
    · cases hr; exact ho
    · rename_i r' hr'
      cases hr
      rw [Outline.hasRange, ho, ih (fun x hx => h x (List.mem_cons_of_mem _ hx)) r' hr']
      rfl

/-! ## Leaves as single tests -/

/-- The same comparator with nothing known but its text. -/
def Comparator.sealed (k : Comparator) : Comparator :=
  .custom fun field s => k.render field s

theorem Comparator.Writes.sealed {k : Comparator} (h : k.Writes) : k.sealed.Writes :=
  h.isEmpty_render

namespace Condition

mutual

def sealed : Condition → Condition
  | .scalar v => .scalar v
  | .compare k => .compare k.sealed
  | .junction k children => .junction k (sealedAll children)
  | .not inner => .not inner.sealed

def sealedAll : List (String × Condition) → List (String × Condition)
  | [] => []
  | (key, c) :: rest => (key, c.sealed) :: sealedAll rest

end

theorem sealedAll_eq (children : List (String × Condition)) :
    sealedAll children = children.map fun child => (child.1, child.2.sealed) := by
  induction children with
  | nil => rfl
  | cons child rest ih => rw [sealedAll, ih, List.map_cons]

theorem isEmpty_sealed (c : Condition) : c.sealed.isEmpty = c.isEmpty := by
  induction c using childInduction
    (Q := fun children => allEmpty (sealedAll children) = allEmpty children) with
  | scalar v => rfl
  | compare k => rfl
  | junction k children ih => exact ih
  | not inner ih => exact ih
  | nil => rfl
  | cons key c rest ih ihrest => rw [sealedAll, allEmpty, allEmpty, ih, ihrest]

theorem length_live_sealedAll (children : List (String × Condition)) :
    (live (sealedAll children)).length = (live children).length := by
  rw [sealedAll_eq, live, List.filter_map, List.length_map, live]
  simp only [Function.comp_def, isEmpty_sealed]

theorem render_sealed (c : Condition) :
    ∀ outer field s, c.sealed.render outer field s = c.render outer field s := by
  induction c using childInduction (Q := fun children => ∀ outer field s,
    renderChildren outer field (sealedAll children) s = renderChildren outer field children s) with
  | scalar v => intro outer field s; rfl
  | compare k => intro outer field s; rfl
  | junction k children ih =>
    intro outer field s
    rw [sealed, render, render, childPrecedence, length_live_sealedAll, ih]
    rfl
  | not inner ih => intro outer field s; rw [sealed, render, render, ih]
  | nil outer field s => rfl
  | cons key c rest ih ihrest outer field s =>
    simp only [sealedAll, renderChildren_cons, ih, ihrest]

theorem all_sealed {P : Comparator → Prop} (c : Condition) (hc : c.All fun k => P k.sealed) :
    c.sealed.All P := by
  induction c using treeInduction with
  | scalar v => exact hc
  | compare k => exact hc
  | junction k children ih =>
    rw [sealed, sealedAll_eq, All, allIn_iff, List.forall_mem_map]
    exact fun child hchild => ih child hchild (hc.child child hchild)
  | not inner ih => exact ih hc

theorem outline_sealed_hasRange (c : Condition) :
    ∀ n o, c.sealed.outline n = some o → o.hasRange = false := by
  induction c using childInduction (Q := fun children =>
    ∀ n, ∀ o ∈ outlines n (sealedAll children), o.hasRange = false) with
  | scalar v => intro n o ho; cases ho; rfl
  | compare k => intro n o ho; cases ho; rfl
  | junction k children ih =>
    intro n o ho
    exact Connective.chain_hasRange (ih n) o ho
  | not inner ih =>
    intro n o ho
    obtain ⟨o', ho', rfl⟩ := Option.map_eq_some_iff.mp ho
    exact ih n o' ho'
  | nil n o ho => cases ho
  | cons key c rest ih ihrest n o ho =>
    rw [sealedAll, outlines, List.mem_append, Option.mem_toList] at ho
    rcases ho with hfirst | hrest
    · exact ih n o hfirst
    · exact ihrest _ o hrest

theorem count_left_tokens_sealed (c : Condition) (h : c.sealed.tokens .none ≠ []) :
    ∃ f, Reads .none (c.sealed.tokens .none) f ∧
      (c.sealed.tokens .none).count .left = f.flatten.needed .none := by
  rw [tokens] at h ⊢
  cases ho : c.sealed.outline 0 with
  | none => rw [ho] at h; exact absurd rfl h
  | some o => exact Outline.count_left_tokens (c.outline_sealed_hasRange 0 o ho) .none

/-- **No pair of brackets can be spared.** The text of a condition consists of the texts of its
leaves, each once and in order, and of connectives, negations and brackets. It means what the
condition means. Without any matching pair of brackets it can still be read, but not as the same
formula, even if chains of one connective count as the same however they are grouped. -/
theorem render_brackets_needed (c : Condition) (hc : c.All Comparator.Writes) (field : String)
    (s : Scope) :
    spell (c.sealed.testText field s) (c.sealed.tokens .none) = (c.render .none field s).1 ∧
      (c.sealed.tokens .none).filterMap Token.index? =
        List.range (c.sealed.tests field s).1.length ∧
      (c.isEmpty = false → ∃ f, Formula.parse (c.sealed.tokens .none) = some f ∧
        ∀ ν, some (f.eval ν) = c.sealed.value ν 0) ∧
      ∀ xs ys zs, c.sealed.tokens .none = xs ++ .left :: (ys ++ .right :: zs) → Balanced ys →
        ∃ f g, Formula.parse (c.sealed.tokens .none) = some f ∧
          Formula.parse (xs ++ (ys ++ zs)) = some g ∧ f.flatten ≠ g.flatten := by
  have hw : c.sealed.All Comparator.Writes :=
    all_sealed c (hc.mono (fun _ => Comparator.Writes.sealed) c)
  refine ⟨?_, c.sealed.filterMap_tokens .none field s, fun hne => ?_, ?_⟩
  · rw [c.sealed.spell_tokens hw, render_sealed]
  · obtain ⟨o, ho⟩ := exists_outline (c.isEmpty_sealed.trans hne) 0
    have hsplit := Outline.splitsRange_of_hasRange (c.outline_sealed_hasRange 0 o ho)
    obtain ⟨f, hf, hv⟩ := o.reads_tokens .none (Or.inr (Nat.zero_le _))
    refine ⟨f, ?_, fun ν => ?_⟩
    · rw [tokens, ho]
      exact Formula.parse_of_reads hf
    · rw [hv, o.reading_eq_value ν false (hsplit false), Bool.false_xor, ← outline_value, ho]
      rfl
  · intro xs ys zs htokens hys
    obtain ⟨f, hf, hcount⟩ := c.count_left_tokens_sealed (by rw [htokens]; simp)
    have hparse := Formula.parse_of_reads hf
    rw [htokens] at hcount
    obtain ⟨g, hg⟩ := Formula.parse_unwrap hys (htokens ▸ hparse)
    exact ⟨f, g, hparse, hg, Formula.flatten_ne_of_unwrap hcount hg⟩

/-- "NOT (age >= $lowerAge AND age <= $upperAge OR age IS NULL) AND (x = $x OR x = $x2)". -/
def ageUnsuited : Condition :=
  .and [("age", .not (.or [.compare (.between (.value .null) (.value .null) true true),
      .compare .isNull])),
    ("x", .or [.xor [], .or [.scalar .null, .scalar .null]])]

theorem render_brackets_needed_ageUnsuited : ageUnsuited.All Comparator.Writes ∧
    ageUnsuited.sealed.tokens .none = [.not, .left, .test 0, .connective .or, .test 1, .right,
      .connective .and, .left, .test 2, .connective .or, .test 3, .right] ∧
    (∃ f, Formula.parse (ageUnsuited.sealed.tokens .none) = some f ∧
      ∀ ν, some (f.eval ν) = ageUnsuited.sealed.value ν 0) ∧
    ∃ f g, Formula.parse (ageUnsuited.sealed.tokens .none) = some f ∧
      Formula.parse [.not, .left, .test 0, .connective .or, .test 1, .right,
        .connective .and, .test 2, .connective .or, .test 3] = some g ∧
      f.flatten ≠ g.flatten := by
  have hc : ageUnsuited.All Comparator.Writes := by
    simp [ageUnsuited, Condition.and, Condition.or, Condition.xor, All, AllIn, Comparator.Writes]
  obtain ⟨-, -, hmeans, hneeded⟩ := render_brackets_needed ageUnsuited hc "" ⟨.empty, 1⟩
  refine ⟨hc, rfl, hmeans rfl, ?_⟩
  exact hneeded [.not, .left, .test 0, .connective .or, .test 1, .right, .connective .and]
    [.test 2, .connective .or, .test 3] [] rfl (by decide)

end Condition

end GraphQuery
