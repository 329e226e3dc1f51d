import GraphQuery.Condition.Render
import GraphQuery.Proofs.Document.Describes

/-!
# The height of accepted conditions

An object of several operators is a level of the condition and none of the document, and so is a
connective that an operator writes out. One level of a document therefore makes two of the condition
at most (`Describes.height_le`), and there are documents of every depth that make two of each
(`exists_height_eq`). The calls of `isEmpty` and `render` on a condition never stand deeper inside one
another than the condition is high.
-/

namespace GraphQuery

namespace Condition

mutual

/-- The number of conditions on the longest way down. -/
def height : Condition → Nat
  | .scalar _ => 1
  | .compare _ => 1
  | .junction _ children => tallest children + 1
  | .not inner => inner.height + 1

def tallest : List (String × Condition) → Nat
  | [] => 0
  | (_, c) :: rest => max c.height (tallest rest)

end

/-! ## The height of what a document describes -/

theorem height_allOperators_le (children : List (String × Condition)) :
    (allOperators children).height ≤ tallest children + 1 := by
  unfold allOperators
  split
  · simp only [tallest]
    omega
  · simp only [height]
    omega

theorem deepestOperand_le_cons (operator : String) (v : Json) (rest : List (String × Json)) :
    deepestOperand rest ≤ deepestOperand ((operator, v) :: rest) := by
  conv => rhs; unfold deepestOperand
  exact Nat.le_max_right _ _

mutual

theorem Describes.height_le {v : Json} {c : Condition} (h : Describes v c) :
    c.height ≤ 2 * documentDepth v := by
  match h with
  | .value _ _ =>
    have hpos := documentDepth_pos v
    simp only [height]
    omega
  | .items hitems =>
    have hle := hitems.tallest_le
    simp only [height, documentDepth]
    omega
  | .fields hop _ hfields =>
    have hle := hfields.tallest_le
    simp only [height, documentDepth, if_neg hop]
    omega
  | @Describes.operators _ children hop hoperators =>
    have hle := hoperators.tallest_le
    have hall := height_allOperators_le children
    simp only [documentDepth, if_pos hop]
    omega

theorem DescribesItems.tallest_le {items : List Json} {children : List (String × Condition)}
    (h : DescribesItems items children) : tallest children ≤ 2 * deepestItem items := by
  match h with
  | .nil => exact Nat.le_refl 0
  | .cons hv hrest =>
    have hhead := hv.height_le
    have htail := hrest.tallest_le
    simp only [tallest, deepestItem]
    omega

theorem DescribesFields.tallest_le {members : List (String × Json)}
    {children : List (String × Condition)} (h : DescribesFields members children) :
    tallest children ≤ 2 * deepestField members := by
  match h with
  | .nil => exact Nat.le_refl 0
  | .cons hv hrest =>
    have hhead := hv.height_le
    have htail := hrest.tallest_le
    simp only [tallest, deepestField]
    omega

theorem DescribesOperators.tallest_le {members : List (String × Json)}
    {children : List (String × Condition)} (h : DescribesOperators members children) :
    tallest children ≤ 2 * deepestOperand members + 1 := by
  match h with
  | .nil => exact Nat.zero_le _
  | @DescribesOperators.cons operator v _ rest _ hv hrest =>
    have hhead := hv.height_le rest
    have htail := hrest.tallest_le
    have hle := deepestOperand_le_cons operator v rest
    simp only [tallest]
    omega

/-- The connective that an operator writes out is a level of its own. -/
theorem DescribesOperator.height_le {operator : String} {v : Json} {c : Condition}
    (h : DescribesOperator operator v c) (rest : List (String × Json)) :
    c.height ≤ 2 * deepestOperand ((operator, v) :: rest) + 1 := by
  match h with
  | .conjunction hfields =>
    have hle := hfields.tallest_le
    simp only [height, deepestOperand]
    omega
  | .disjunction hitems =>
    have hle := hitems.tallest_le
    simp only [height, deepestOperand]
    omega
  | .exclusive hitems =>
    have hle := hitems.tallest_le
    simp only [height, deepestOperand]
    omega
  | .negation hv =>
    have hle := hv.height_le
    simp only [height, deepestOperand]
    omega
  | .test _ _ _ _ _ =>
    simp only [height]
    omega

end

theorem ofJson_iff_meaning {limit : Nat} {v : Json} {c : Condition} :
    ofJson limit v = .ok c ↔ meaning v = .ok c ∧ documentDepth v ≤ limit := by
  have hlimited := limited_classify limit 0 v
  rw [Nat.zero_add] at hlimited
  exact hlimited.eq_ok_iff

/-- Two operators at every level, one of them a negation but at the last. -/
def paired : Nat → Json
  | 0 => .object [("$gt", .null), ("$lt", .null)]
  | n + 1 => .object [("$not", paired n), ("$exists", .bool true)]

theorem paired_spec (n : Nat) : documentDepth (paired n) = n + 1 ∧
    ∃ c, meaning (paired n) = .ok c ∧ c.height = 2 * (n + 1) := by
  induction n with
  | zero => exact ⟨rfl, _, rfl, rfl⟩
  | succ n ih =>
    obtain ⟨hdepth, c, hc, hheight⟩ := ih
    have hop : AreOperators [("$not", paired n), ("$exists", .bool true)] :=
      ⟨List.cons_ne_nil _ _, by simp [isOperatorKey]⟩
    have hoperators : operatorMeanings [("$not", paired n), ("$exists", .bool true)] =
        .ok [("", .not c), ("", .compare .isPresent)] := by
      rw [operatorMeanings, hc]
      rfl
    refine ⟨?_, .junction .and [("", .not c), ("", .compare .isPresent)], ?_, ?_⟩
    · have hdeepest : deepestOperand [("$not", paired n), ("$exists", .bool true)] = n + 1 := by
        rw [deepestOperand, hdepth]
        rfl
      rw [paired, documentDepth, if_pos hop, hdeepest]
    · rw [paired, meaning, if_pos hop, hoperators]
      rfl
    · simp only [height, tallest, hheight]
      omega

/-- The bound of two for every level of a document is met at every depth. -/
theorem exists_height_eq (n : Nat) :
    ∃ v c, ofJson (n + 1) v = .ok c ∧ c.height = 2 * (n + 1) := by
  obtain ⟨hdepth, c, hc, hheight⟩ := paired_spec n
  exact ⟨paired n, c, ofJson_iff_meaning.mpr ⟨hc, Nat.le_of_eq hdepth⟩, hheight⟩

/-! ## Calls inside one another -/

mutual

/-- `isEmpty` with a number of calls inside one another that must not be exceeded. -/
def isEmptyWithin : Nat → Condition → Option Bool
  | 0, _ => none
  | _ + 1, .scalar _ => some false
  | _ + 1, .compare _ => some false
  | n + 1, .junction _ children => allEmptyWithin n children
  | n + 1, .not inner => isEmptyWithin n inner

def allEmptyWithin (n : Nat) : List (String × Condition) → Option Bool
  | [] => some true
  | (_, c) :: rest => do
    if ← isEmptyWithin n c then allEmptyWithin n rest else some false

end

def liveWithin (n : Nat) : List (String × Condition) → Option (List (String × Condition))
  | [] => some []
  | (key, c) :: rest => do
    let blank ← isEmptyWithin n c
    let others ← liveWithin n rest
    return if blank then others else (key, c) :: others

mutual

/-- `render` with a number of calls inside one another that must not be exceeded. The calls of
`isEmpty` on the children count. -/
def renderWithin : Nat → Precedence → String → Condition → Scope → Option (Fragment × Scope)
  | 0, _, _, _, _ => none
  | _ + 1, _, field, .scalar value, s =>
    let stored := s.allocate value (some (Comparator.parameterName field))
    some (.text (field ++ " = ") ++ .param stored.1, stored.2)
  | _ + 1, _, field, .compare comparator, s => some (comparator.render field s)
  | n + 1, outer, field, .junction connective children, s => do
    let kept ← liveWithin n children
    let inner := if kept.length < 2 then outer else connective.precedence
    let parts ← renderChildrenWithin n inner field children s
    return (assemble outer connective parts.1, parts.2)
  | n + 1, _, field, .not inner, s => do
    let operand ← renderWithin n .not field inner s
    return (if operand.1.isEmpty then operand.1 else .text "NOT " ++ operand.1, operand.2)

def renderChildrenWithin (n : Nat) (outer : Precedence) (field : String) :
    List (String × Condition) → Scope → Option (List Fragment × Scope)
  | [], s => some ([], s)
  | (key, c) :: rest, s => do
    if ← isEmptyWithin n c then renderChildrenWithin n outer field rest s
    else
      let first ← renderWithin n outer (joinField field key) c s
      let others ← renderChildrenWithin n outer field rest first.2
      return (if first.1.isEmpty then others.1 else first.1 :: others.1, others.2)

end

mutual

theorem isEmptyWithin_eq {n : Nat} (c : Condition) (h : c.height ≤ n) :
    isEmptyWithin n c = some c.isEmpty := by
  match n, c, h with
  | 0, c, h => cases c <;> simp [height] at h
  | n + 1, .scalar _, _ => rfl
  | n + 1, .compare _, _ => rfl
  | n + 1, .junction _ children, h =>
    rw [isEmptyWithin, isEmpty]
    exact allEmptyWithin_eq children (Nat.le_of_succ_le_succ h)
  | n + 1, .not inner, h =>
    rw [isEmptyWithin, isEmpty]
    exact isEmptyWithin_eq inner (Nat.le_of_succ_le_succ h)

theorem allEmptyWithin_eq {n : Nat} (children : List (String × Condition))
    (h : tallest children ≤ n) :
    allEmptyWithin n children = some (allEmpty children) := by
  match children, h with
  | [], _ => rfl
  | (key, c) :: rest, h =>
    obtain ⟨hc, hrest⟩ := Nat.max_le.mp h
    rw [allEmptyWithin, isEmptyWithin_eq c hc, allEmptyWithin_eq rest hrest, allEmpty]
    cases c.isEmpty <;> rfl

end

theorem liveWithin_eq {n : Nat} {children : List (String × Condition)} (h : tallest children ≤ n) :
    liveWithin n children = some (live children) := by
  induction children with
  | nil => rfl
  | cons child rest ih =>
    obtain ⟨key, c⟩ := child
    obtain ⟨hc, hrest⟩ := Nat.max_le.mp h
    rw [liveWithin, isEmptyWithin_eq c hc, ih hrest, live, live]
    by_cases hblank : c.isEmpty <;> simp [hblank]

mutual

theorem renderWithin_eq {n : Nat} (outer : Precedence) (field : String) (c : Condition) (s : Scope)
    (h : c.height ≤ n) : renderWithin n outer field c s = some (render outer field c s) := by
  match n, c, h with
  | 0, c, h => cases c <;> simp [height] at h
  | n + 1, .scalar _, _ => rfl
  | n + 1, .compare _, _ => rfl
  | n + 1, .junction connective children, h =>
    have hle : tallest children ≤ n := Nat.le_of_succ_le_succ h
    rw [renderWithin, liveWithin_eq hle, render, childPrecedence]
    exact congrArg (Option.bind · _) (renderChildrenWithin_eq _ field children s hle)
  | n + 1, .not inner, h =>
    rw [renderWithin, renderWithin_eq .not field inner s (Nat.le_of_succ_le_succ h), render]
    rfl

theorem renderChildrenWithin_eq {n : Nat} (outer : Precedence) (field : String)
    (children : List (String × Condition)) (s : Scope) (h : tallest children ≤ n) :
    renderChildrenWithin n outer field children s = some (renderChildren outer field children s) := by
  match children, h with
  | [], _ => rfl
  | (key, c) :: rest, h =>
    obtain ⟨hc, hrest⟩ := Nat.max_le.mp h
    rw [renderChildrenWithin, isEmptyWithin_eq c hc, renderChildren]
    by_cases hblank : c.isEmpty
    · simp only [hblank, if_true]
      exact renderChildrenWithin_eq outer field rest s hrest
    · simp [hblank, renderWithin_eq outer (joinField field key) c s hc,
        renderChildrenWithin_eq outer field rest _ hrest]

end

/-- **Accepted documents have bounded conditions.** The condition is at most twice as high as the
limit, so a stack of twice the limit is enough to ask whether it is empty and to render it. -/
theorem height_le_of_ofJson {limit : Nat} {v : Json} {c : Condition} (h : ofJson limit v = .ok c) :
    c.height ≤ 2 * limit ∧ isEmptyWithin (2 * limit) c = some c.isEmpty ∧
      ∀ outer field s, renderWithin (2 * limit) outer field c s = some (render outer field c s) := by
  obtain ⟨hmeaning, hdepth⟩ := ofJson_iff_meaning.mp h
  have hheight := (describes_of_meaning hmeaning).height_le
  have hle : c.height ≤ 2 * limit := by omega
  exact ⟨hle, isEmptyWithin_eq c hle, fun outer field s => renderWithin_eq outer field c s hle⟩

/-- `{"$not": {"$gt": null, "$lt": null}, "$exists": true}` takes the whole stack. -/
theorem height_le_of_ofJson_paired : ∃ c, ofJson 2 (paired 1) = .ok c ∧ c.height = 2 * 2 ∧
    isEmptyWithin 4 c = some false ∧ isEmptyWithin 3 c = none ∧
      ∀ s, renderWithin 4 .none "age" c s = some (render .none "age" c s) := by
  have haccepted : ∃ c, ofJson 2 (paired 1) = .ok c ∧ c.height = 4 ∧ c.isEmpty = false ∧
      isEmptyWithin 3 c = none := ⟨_, rfl, rfl, rfl, rfl⟩
  obtain ⟨c, hc, hheight, hempty, hshort⟩ := haccepted
  obtain ⟨-, hisEmpty, hrender⟩ := height_le_of_ofJson hc
  exact ⟨c, hc, hheight, hempty ▸ hisEmpty, hshort, hrender .none "age"⟩

end Condition

end GraphQuery
