import GraphQuery.Proofs.Document.Depth

/-!
# What documents describe

`Describes v c`: the value `v` describes the condition `c`, said rule by rule. `describes_of_meaning`:
whatever a value is read as, it describes.
-/

namespace GraphQuery

namespace Condition

/-- The members are operators, at least one of them. -/
abbrev AreOperators (members : List (String × Json)) : Prop :=
  members ≠ [] ∧ (members.all fun member => isOperatorKey member.1) = true

mutual

inductive Describes : Json → Condition → Prop
  | value {v} : (∀ items, v ≠ .array items) → (∀ members, v ≠ .object members) →
      Describes v (.scalar v)
  | items {items children} : DescribesItems items children →
      Describes (.array items) (.junction .or children)
  | fields {members children} : ¬ AreOperators members →
      (members.any fun member => isOperatorKey member.1) = false →
      DescribesFields members children → Describes (.object members) (.junction .and children)
  | operators {members children} : AreOperators members → DescribesOperators members children →
      Describes (.object members) (allOperators children)

inductive DescribesItems : List Json → List (String × Condition) → Prop
  | nil : DescribesItems [] []
  | cons {v c rest children} : Describes v c → DescribesItems rest children →
      DescribesItems (v :: rest) (("", c) :: children)

inductive DescribesFields : List (String × Json) → List (String × Condition) → Prop
  | nil : DescribesFields [] []
  | cons {key v c rest children} : Describes v c → DescribesFields rest children →
      DescribesFields ((key, v) :: rest) ((key, c) :: children)

inductive DescribesOperators : List (String × Json) → List (String × Condition) → Prop
  | nil : DescribesOperators [] []
  | cons {operator v c rest children} : DescribesOperator operator v c →
      DescribesOperators rest children →
      DescribesOperators ((operator, v) :: rest) (("", c) :: children)

inductive DescribesOperator : String → Json → Condition → Prop
  | conjunction {members children} : DescribesFields members children →
      DescribesOperator "$and" (.object members) (.junction .and children)
  | disjunction {items children} : DescribesItems items children →
      DescribesOperator "$or" (.array items) (.junction .or children)
  | exclusive {items children} : DescribesItems items children →
      DescribesOperator "$xor" (.array items) (.junction .xor children)
  | negation {v c} : Describes v c → DescribesOperator "$not" v (.not c)
  | test {operator v comparator} : operator ≠ "$and" → operator ≠ "$or" → operator ≠ "$xor" →
      operator ≠ "$not" → Comparator.ofOperator operator v = .ok comparator →
      DescribesOperator operator v (.compare comparator)

end

/-! ## Reading -/

section
variable {α β γ : Type} {x : Except DocumentError α} {y : Except DocumentError β}

theorem map_eq_ok {f : α → γ} {b : γ} (h : x.map f = .ok b) : ∃ a, x = .ok a ∧ f a = b := by
  cases x with
  | error e => cases h
  | ok a => exact ⟨a, rfl, Except.ok.inj h⟩

theorem both_eq_ok {f : α → β → γ} {c : γ}
    (h : (do let a ← x; let b ← y; return f a b) = Except.ok c) :
    ∃ a b, x = .ok a ∧ y = .ok b ∧ f a b = c := by
  cases x with
  | error e => cases h
  | ok a =>
    cases y with
    | error e => cases h
    | ok b => exact ⟨a, b, rfl, rfl, Except.ok.inj h⟩

end

/-- The condition that one operator with its operand describes. -/
def operatorMeaning : String → Json → Except DocumentError Condition
  | "$and", .object members => (fieldMeanings members).map (Condition.junction .and)
  | "$and", _ => .error (.expected "$and" .object)
  | "$or", .array items => (itemMeanings items).map (Condition.junction .or)
  | "$or", _ => .error (.expected "$or" .array)
  | "$xor", .array items => (itemMeanings items).map (Condition.junction .xor)
  | "$xor", _ => .error (.expected "$xor" .array)
  | "$not", v => (meaning v).map Condition.not
  | operator, v => (Comparator.ofOperator operator v).map Condition.compare

theorem operatorMeanings_cons (operator : String) (v : Json) (rest : List (String × Json)) :
    operatorMeanings ((operator, v) :: rest) = do
      let c ← operatorMeaning operator v
      let others ← operatorMeanings rest
      return ("", c) :: others := by
  induction operator, v using operatorCases with
  | conjunction | disjunction | exclusive | negation =>
    rw [operatorMeanings, operatorMeaning]
  | notObject v hne | notArray v hne | notExclusive v hne =>
    rw [operatorMeanings, operatorMeaning] <;> exact hne
  | test operator v hand hor hxor hnot =>
    rw [operatorMeanings, operatorMeaning]
    -- none of the rules for the four operators applies
    all_goals first | assumption | (intro _ h; contradiction)

mutual

theorem describes_of_meaning {v : Json} {c : Condition} (h : meaning v = .ok c) :
    Describes v c := by
  match v with
  | .null | .bool _ | .number _ | .string _ =>
    obtain rfl := Except.ok.inj h
    exact .value (fun _ h => nomatch h) fun _ h => nomatch h
  | .array items =>
    obtain ⟨children, hitems, rfl⟩ := map_eq_ok h
    exact .items (describesItems_of_meanings hitems)
  | .object members =>
    rw [meaning] at h
    split at h
    · rename_i hop
      obtain ⟨children, hoperators, rfl⟩ := map_eq_ok h
      exact .operators hop (describesOperators_of_meanings hoperators)
    · rename_i hop
      split at h
      · cases h
      · rename_i hany
        obtain ⟨children, hfields, rfl⟩ := map_eq_ok h
        exact .fields hop (by simpa using hany) (describesFields_of_meanings hfields)

theorem describesItems_of_meanings {items : List Json} {children : List (String × Condition)}
    (h : itemMeanings items = .ok children) : DescribesItems items children := by
  match items with
  | [] =>
    obtain rfl := Except.ok.inj h
    exact .nil
  | v :: rest =>
    obtain ⟨c, others, hv, hrest, rfl⟩ := both_eq_ok h
    exact .cons (describes_of_meaning hv) (describesItems_of_meanings hrest)

theorem describesFields_of_meanings {members : List (String × Json)}
    {children : List (String × Condition)} (h : fieldMeanings members = .ok children) :
    DescribesFields members children := by
  match members with
  | [] =>
    obtain rfl := Except.ok.inj h
    exact .nil
  | (key, v) :: rest =>
    obtain ⟨c, others, hv, hrest, rfl⟩ := both_eq_ok h
    exact .cons (describes_of_meaning hv) (describesFields_of_meanings hrest)

theorem describesOperators_of_meanings {members : List (String × Json)}
    {children : List (String × Condition)} (h : operatorMeanings members = .ok children) :
    DescribesOperators members children := by
  match members with
  | [] =>
    obtain rfl := Except.ok.inj h
    exact .nil
  | (operator, v) :: rest =>
    rw [operatorMeanings_cons] at h
    obtain ⟨c, others, hv, hrest, rfl⟩ := both_eq_ok h
    exact .cons (describesOperator_of_meaning hv) (describesOperators_of_meanings hrest)

theorem describesOperator_of_meaning {operator : String} {v : Json} {c : Condition}
    (h : operatorMeaning operator v = .ok c) : DescribesOperator operator v c := by
  unfold operatorMeaning at h
  split at h
  · obtain ⟨children, hfields, rfl⟩ := map_eq_ok h
    exact .conjunction (describesFields_of_meanings hfields)
  · cases h
  · obtain ⟨children, hitems, rfl⟩ := map_eq_ok h
    exact .disjunction (describesItems_of_meanings hitems)
  · cases h
  · obtain ⟨children, hitems, rfl⟩ := map_eq_ok h
    exact .exclusive (describesItems_of_meanings hitems)
  · cases h
  · obtain ⟨inner, hinner, rfl⟩ := map_eq_ok h
    exact .negation (describes_of_meaning hinner)
  · obtain ⟨comparator, hcomparator, rfl⟩ := map_eq_ok h
    refine .test ?_ ?_ ?_ ?_ hcomparator
    all_goals assumption

end

end Condition

end GraphQuery
