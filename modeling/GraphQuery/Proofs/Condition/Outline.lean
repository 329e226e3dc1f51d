import GraphQuery.Proofs.Condition.Truth

/-!
# The outline of a condition and its tokens

Leaving out what tests nothing and replacing a group of one by its member turns a condition into
its outline, a tree in which every junction joins two parts. `render_eq_spell`: the text of a
condition is the text of its outline's tokens, with the texts of the tests in the place of their
numbers. The tokens do not depend on the table, and the tests do not depend on the level.
-/

namespace GraphQuery

/-- A condition without empty groups and groups of one. A range stands for the test with its number
and the next one. -/
inductive Outline
  | test (n : Nat)
  | range (n : Nat)
  | not (o : Outline)
  | join (k : Connective) (o r : Outline)

namespace Outline

/-- The tokens of an outline in surroundings that bind as tightly as `outer`. The two tests of a
range are never bracketed. -/
def tokens (outer : Precedence) : Outline → List Token
  | .test n => [.test n]
  | .range n => [.test n, .connective .and, .test (n + 1)]
  | .not o => .not :: o.tokens .not
  | .join k o r =>
    let ts := o.tokens k.precedence ++ .connective k :: r.tokens k.precedence
    if k.precedence.rank < outer.rank then .left :: (ts ++ [.right]) else ts

def indices : Outline → List Nat
  | .test n => [n]
  | .range n => [n, n + 1]
  | .not o => o.indices
  | .join _ o r => o.indices ++ r.indices

def value (ν : Nat → Bool) : Outline → Bool
  | .test n => ν n
  | .range n => ν n && ν (n + 1)
  | .not o => !o.value ν
  | .join k o r => k.apply (o.value ν) (r.value ν)

theorem tokens_ne_nil (outer : Precedence) (o : Outline) : o.tokens outer ≠ [] := by
  cases o with
  | join k o r => rw [tokens]; split <;> simp
  | _ => simp [tokens]

theorem filterMap_tokens (o : Outline) :
    ∀ outer, (o.tokens outer).filterMap Token.index? = o.indices := by
  induction o with
  | test n => intro _; rfl
  | range n => intro _; rfl
  | not o ih => intro _; rw [tokens, List.filterMap_cons_none rfl, indices, ih]
  | join k o r iho ihr =>
    intro outer
    have hts : (o.tokens k.precedence ++ .connective k :: r.tokens k.precedence).filterMap
        Token.index? = o.indices ++ r.indices := by
      rw [List.filterMap_append, List.filterMap_cons_none rfl, iho, ihr]
    rw [tokens, indices]
    split
    · rw [List.filterMap_cons_none rfl, List.filterMap_append, hts]; simp [Token.index?]
    · exact hts

end Outline

def Connective.chain (k : Connective) : List Outline → Option Outline
  | [] => none
  | o :: rest =>
    match k.chain rest with
    | none => some o
    | some r => some (.join k o r)

namespace Connective

theorem chain_eq_none {k : Connective} {os : List Outline} : k.chain os = none ↔ os = [] := by
  cases os with
  | nil => simp [chain]
  | cons o rest => simp only [chain]; split <;> simp

theorem chain_indices {k : Connective} (os : List Outline) :
    (k.chain os).elim [] Outline.indices = os.flatMap Outline.indices := by
  induction os with
  | nil => rfl
  | cons o rest ih =>
    rw [chain, List.flatMap_cons, ← ih]
    cases k.chain rest <;> simp [Outline.indices]

theorem total_cons (k : Connective) (v : Bool) (vs : List Bool) :
    k.total (v :: vs) = some (match k.total vs with | none => v | some w => k.apply v w) := by
  cases vs with
  | nil => cases k <;> simp [total]
  | cons w vs => cases k <;> rfl

theorem chain_value (ν : Nat → Bool) (k : Connective) (os : List Outline) :
    (k.chain os).map (Outline.value ν) = k.total (os.map (Outline.value ν)) := by
  induction os with
  | nil => rfl
  | cons o rest ih =>
    rw [chain, List.map_cons, total_cons, ← ih]
    cases k.chain rest <;> rfl

end Connective

def Comparator.outline (n : Nat) : Comparator → Outline
  | .between .. => .range n
  | _ => .test n

namespace Condition

mutual

/-- The outline of a condition whose first test has the number `n`. -/
def outline (n : Nat) : Condition → Option Outline
  | .scalar _ => some (.test n)
  | .compare c => some (c.outline n)
  | .junction k children => k.chain (outlines n children)
  | .not inner => (inner.outline n).map .not

def outlines (n : Nat) : List (String × Condition) → List Outline
  | [] => []
  | (_, c) :: rest => (c.outline n).toList ++ outlines (n + c.width) rest

end

def tokens (outer : Precedence) (c : Condition) : List Token :=
  (c.outline 0).elim [] (Outline.tokens outer)

/-! ## Values, numbers and absence in the outline -/

theorem outline_value (ν : Nat → Bool) (c : Condition) :
    ∀ n, (c.outline n).map (Outline.value ν) = c.value ν n := by
  induction c using childInduction (Q := fun children =>
    ∀ n, (outlines n children).map (Outline.value ν) = values ν n children) with
  | scalar v => intro n; rfl
  | compare k => intro n; cases k <;> rfl
  | junction k children ih =>
    intro n
    rw [outline, value, Connective.chain_value, ih]
  | not c ih =>
    intro n
    rw [outline, value, ← ih]
    cases c.outline n <;> rfl
  | nil n => rfl
  | cons key c rest ih ihrest n =>
    rw [outlines, values, List.map_append, ihrest, ← ih]
    cases c.outline n <;> rfl

theorem outline_indices (c : Condition) :
    ∀ n, (c.outline n).elim [] Outline.indices = List.range' n c.width := by
  induction c using childInduction (Q := fun children =>
    ∀ n, (outlines n children).flatMap Outline.indices = List.range' n (widths children)) with
  | scalar v => intro n; rfl
  | compare k => intro n; cases k <;> rfl
  | junction k children ih =>
    intro n
    rw [outline, width, Connective.chain_indices, ih]
  | not c ih =>
    intro n
    rw [outline, width, ← ih]
    cases c.outline n <;> rfl
  | nil n => rfl
  | cons key c rest ih ihrest n =>
    rw [outlines, widths, List.flatMap_append, ihrest, ← List.range'_append_1, ← ih]
    cases c.outline n <;> simp

theorem outline_isNone (c : Condition) : ∀ n, (c.outline n).isNone = c.isEmpty := by
  induction c using childInduction (Q := fun children =>
    ∀ n, outlines n children = [] ↔ allEmpty children = true) with
  | scalar v => intro n; rfl
  | compare k => intro n; rfl
  | junction k children ih =>
    intro n
    rw [outline, isEmpty, Bool.eq_iff_iff, ← ih n, Option.isNone_iff_eq_none,
      Connective.chain_eq_none]
  | not c ih =>
    intro n
    rw [outline, isEmpty, Option.isNone_map, ih]
  | nil n => simp [outlines, allEmpty]
  | cons key c rest ih ihrest n =>
    rw [outlines, allEmpty_cons, List.append_eq_nil_iff, ihrest, ← ih n]
    cases c.outline n <;> simp

theorem outline_of_isEmpty {c : Condition} (h : c.isEmpty = true) (n : Nat) : c.outline n = none := by
  rw [← Option.isNone_iff_eq_none, outline_isNone, h]

theorem exists_outline {c : Condition} (h : c.isEmpty = false) (n : Nat) :
    ∃ o, c.outline n = some o := by
  rw [← outline_isNone c n] at h
  exact Option.isSome_iff_exists.mp (by simpa using h)

theorem length_live (children : List (String × Condition)) :
    ∀ n, (live children).length = (outlines n children).length := by
  induction children with
  | nil => intro n; rfl
  | cons child rest ih =>
    intro n
    obtain ⟨key, c⟩ := child
    rw [outlines, List.length_append, ← ih]
    by_cases hc : c.isEmpty = true
    · rw [outline_of_isEmpty hc]; simp [live, hc]
    · rw [Bool.not_eq_true] at hc
      obtain ⟨o, ho⟩ := exists_outline hc n
      simp [live, hc, ho, Nat.add_comm]

end Condition

/-! ## Spelling tokens out -/

def Token.fragment (φ : Nat → Fragment) : Token → Fragment
  | .test i => φ i
  | .connective k => .text k.separator
  | .not => .text "NOT "
  | .left => .text "("
  | .right => .text ")"

def spell (φ : Nat → Fragment) (ts : List Token) : Fragment :=
  Fragment.join "" (ts.map (Token.fragment φ))

section
variable (φ : Nat → Fragment)

@[simp] theorem spell_singleton (t : Token) : spell φ [t] = t.fragment φ := rfl

theorem spell_append {ts us : List Token} (ht : ts ≠ []) (hu : us ≠ []) :
    spell φ (ts ++ us) = spell φ ts ++ spell φ us := by
  rw [spell, List.map_append, Fragment.join_append _ (by simpa using ht) (by simpa using hu),
    Fragment.text_empty, Fragment.empty_append]
  rfl

theorem spell_cons (t : Token) {ts : List Token} (ht : ts ≠ []) :
    spell φ (t :: ts) = t.fragment φ ++ spell φ ts :=
  spell_append φ (List.cons_ne_nil t []) ht

theorem spell_brackets {ts : List Token} (ht : ts ≠ []) :
    spell φ (.left :: (ts ++ [.right])) = (spell φ ts).parenthesized := by
  rw [spell_cons φ _ (by simp), spell_append φ ht (by simp), ← Fragment.append_assoc]
  rfl

theorem spell_infix (k : Connective) {ts us : List Token} (ht : ts ≠ []) (hu : us ≠ []) :
    spell φ (ts ++ .connective k :: us) = spell φ ts ++ (.text k.separator ++ spell φ us) := by
  rw [spell_append φ ht (by simp), spell_cons φ _ hu]
  rfl

theorem join_spell_tokens {k : Connective} {os : List Outline} (h : os ≠ []) :
    Fragment.join k.separator (os.map fun o => spell φ (o.tokens k.precedence)) =
      spell φ ((k.chain os).elim [] (Outline.tokens k.precedence)) := by
  induction os with
  | nil => exact absurd rfl h
  | cons o rest ih =>
    by_cases hr : rest = []
    · subst hr; rfl
    · rw [List.map_cons, Fragment.join_cons _ _ (by simpa using hr), ih hr, Connective.chain]
      cases hch : k.chain rest with
      | none => exact absurd (Connective.chain_eq_none.mp hch) hr
      | some r =>
        show _ = spell φ (Outline.tokens k.precedence (.join k o r))
        rw [Outline.tokens, if_neg (Nat.lt_irrefl _),
          spell_infix φ k (Outline.tokens_ne_nil _ o) (Outline.tokens_ne_nil _ r)]
        rfl

theorem assemble_spell_tokens (outer : Precedence) (k : Connective) (os : List Outline) :
    Condition.assemble outer k (os.map fun o =>
        spell φ (o.tokens (if os.length < 2 then outer else k.precedence))) =
      spell φ ((k.chain os).elim [] (Outline.tokens outer)) := by
  match os with
  | [] => rfl
  | [o] => simp [Condition.assemble, Connective.chain]
  | o :: o' :: rest =>
    have hlen : ¬ (o :: o' :: rest).length < 2 := by simp
    have htwo : 2 ≤ (o :: o' :: rest).length := by simp
    simp only [Condition.assemble, hlen, if_false, List.length_map, htwo, true_and,
      join_spell_tokens φ (List.cons_ne_nil o (o' :: rest))]
    -- a chain of two or more is a junction, bracketed only in tighter surroundings
    obtain ⟨r, hr⟩ : ∃ r, k.chain (o' :: rest) = some r :=
      Option.ne_none_iff_exists'.mp fun e => absurd (Connective.chain_eq_none.mp e) (by simp)
    rw [Connective.chain, hr]
    simp only [Option.elim_some, Outline.tokens, Nat.lt_irrefl, if_false]
    split
    · rw [spell_brackets φ (by simp)]
    · rfl

end

/-- `φ` gives the texts in a list, from number `n` on. -/
def Numbers (φ : Nat → Fragment) (n : Nat) : List Fragment → Prop
  | [] => True
  | f :: fs => φ n = f ∧ Numbers φ (n + 1) fs

theorem numbers_append {φ : Nat → Fragment} {fs gs : List Fragment} :
    ∀ {n : Nat}, Numbers φ n (fs ++ gs) ↔ Numbers φ n fs ∧ Numbers φ (n + fs.length) gs := by
  induction fs with
  | nil => intro n; simp [Numbers]
  | cons f fs ih =>
    intro n
    simp only [List.cons_append, Numbers, ih, List.length_cons, and_assoc]
    rw [show n + 1 + fs.length = n + (fs.length + 1) by omega]

theorem numbers_getD (fs : List Fragment) : Numbers (fun i => fs.getD i .empty) 0 fs := by
  suffices H : ∀ gs before, Numbers (fun i => (before ++ gs).getD i .empty) before.length gs from
    H fs []
  intro gs
  induction gs with
  | nil => intro _; trivial
  | cons g gs ih =>
    intro before
    refine ⟨by simp, ?_⟩
    have := ih (before ++ [g])
    simpa using this

namespace Condition

theorem renderComparator_eq_spell {φ : Nat → Fragment} {n : Nat} (k : Comparator) (field : String)
    (s : Scope) (hφ : Numbers φ n (k.tests field s).1) (outer : Precedence) :
    k.render field s = (spell φ ((k.outline n).tokens outer), (k.tests field s).2) := by
  cases k with
  | between lower upper lowerInclusive upperInclusive =>
    obtain ⟨hlow, hhigh, -⟩ := hφ
    have htext : (" AND " ++ field ++ if upperInclusive then " <= " else " < ") =
        " AND " ++ (field ++ if upperInclusive then " <= " else " < ") := String.append_assoc ..
    simp only [Comparator.outline, Outline.tokens, Comparator.render, Comparator.tests]
    rw [spell_cons φ _ (by simp), spell_cons φ _ (by simp), spell_singleton]
    simp only [Token.fragment, hlow, hhigh, Connective.separator]
    rw [htext, ← Fragment.text_append_text " AND "]
    simp only [Fragment.append_assoc]
  | _ => simp [Comparator.outline, Outline.tokens, Comparator.tests, Token.fragment, hφ.1]

/-- **The text of a condition is the text of its tokens.** -/
theorem render_eq_spell (c : Condition) (hc : c.All Comparator.Writes) :
    ∀ (φ : Nat → Fragment) (n : Nat) outer field s, Numbers φ n (c.tests field s).1 →
      c.render outer field s =
        (spell φ ((c.outline n).elim [] (Outline.tokens outer)), (c.tests field s).2) := by
  intro φ
  induction c using childInduction (Q := fun children => AllIn Comparator.Writes children →
    ∀ n outer field s, Numbers φ n (childTests field children s).1 →
      renderChildren outer field children s =
        ((outlines n children).map fun o => spell φ (o.tokens outer),
          (childTests field children s).2)) with
  | scalar v =>
    intro n outer field s hφ
    rw [outline, Option.elim_some, Outline.tokens, spell_singleton, Token.fragment, hφ.1]
    rfl
  | compare k =>
    intro n outer field s hφ
    exact renderComparator_eq_spell k field s hφ outer
  | junction k children ih =>
    intro n outer field s hφ
    rw [All] at hc
    rw [tests] at hφ
    rw [render, ih hc n _ field s hφ, childPrecedence, length_live children n, assemble_spell_tokens]
    rfl
  | not c ih =>
    intro n outer field s hφ
    rw [All] at hc
    have hhead := ih hc n .not field s hφ
    have hne := isEmpty_render c hc .not field s
    by_cases hce : c.isEmpty = true
    · rw [render_of_isEmpty _ (by rw [isEmpty, hce]), tests_of_isEmpty _ (by rw [isEmpty, hce]),
        outline_of_isEmpty (by rw [isEmpty, hce])]
      rfl
    · rw [Bool.not_eq_true] at hce
      obtain ⟨o, ho⟩ := exists_outline hce n
      rw [ho, Option.elim_some] at hhead
      rw [hhead, hce] at hne
      rw [render, outline, tests]
      simp only [hne, Bool.false_eq_true, if_false, hhead, ho, Option.map_some,
        Option.elim_some, Outline.tokens]
      rw [spell_cons φ _ (Outline.tokens_ne_nil _ o)]
      rfl
  | nil _ n outer field s _ => rfl
  | cons key c rest ih ihrest hall n outer field s hφ =>
    rw [AllIn] at hall
    obtain ⟨hfirst, hothers⟩ := numbers_append.mp hφ
    rw [length_tests] at hothers
    have hr := ihrest hall.2 _ outer field _ hothers
    rw [renderChildren, childTests, outlines]
    by_cases hce : c.isEmpty = true
    · rw [tests_of_isEmpty c hce] at hr ⊢
      simp only [hce, if_true, outline_of_isEmpty hce, hr, Option.toList_none, List.nil_append]
    · rw [Bool.not_eq_true] at hce
      have hhead := ih hall.1 n outer _ s hfirst
      have hne := isEmpty_render c hall.1 outer (joinField field key) s
      obtain ⟨o, ho⟩ := exists_outline hce n
      rw [ho, Option.elim_some] at hhead
      rw [hhead, hce] at hne
      simp only [hce, Bool.false_eq_true, if_false, hne, hhead, hr, ho, Option.toList_some,
        List.singleton_append, List.map_cons]

end Condition

end GraphQuery
