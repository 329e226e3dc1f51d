import GraphQuery.Proofs.Document.Describes

/-!
# Operators in the place of fields

The keys of an object of fields are looked at, those in the object of a `$and` are not. So an
accepted document has an operator in the place of a field just where the condition that it describes
has one (`hasOperatorKey_of_ofJson`).
-/

namespace GraphQuery

namespace Condition

mutual

/-- Whether some child of a junction has an operator for its key. -/
def hasOperatorKey : Condition → Bool
  | .scalar _ => false
  | .compare _ => false
  | .junction _ children => anyOperatorKey children
  | .not inner => inner.hasOperatorKey

def anyOperatorKey : List (String × Condition) → Bool
  | [] => false
  | (key, c) :: rest => isOperatorKey key || c.hasOperatorKey || anyOperatorKey rest

end

/-- Where the names of fields are expected. -/
inductive FieldPlace
  | plainObject
  | conjunction
deriving DecidableEq

/-- Whether an operator is among members in the place of fields, if that is the place asked
about. -/
def operatorAmong (place here : FieldPlace) (members : List (String × Json)) : Bool :=
  place = here && members.any fun member => isOperatorKey member.1

mutual

/-- Whether somewhere in a value an operator is in a place of fields. -/
def misplaced (place : FieldPlace) : Json → Bool
  | .array items => misplacedInItems place items
  | .object members =>
    if AreOperators members then
      misplacedInOperands place members
    else operatorAmong place .plainObject members || misplacedInFields place members
  | _ => false

def misplacedInItems (place : FieldPlace) : List Json → Bool
  | [] => false
  | v :: rest => misplaced place v || misplacedInItems place rest

def misplacedInFields (place : FieldPlace) : List (String × Json) → Bool
  | [] => false
  | (_, v) :: rest => misplaced place v || misplacedInFields place rest

def misplacedInOperands (place : FieldPlace) : List (String × Json) → Bool
  | [] => false
  | (operator, v) :: rest =>
    (match operator, v with
      | "$and", .object members =>
        operatorAmong place .conjunction members || misplacedInFields place members
      | "$or", .array items => misplacedInItems place items
      | "$xor", .array items => misplacedInItems place items
      | "$not", v => misplaced place v
      | _, _ => false) || misplacedInOperands place rest

end

/-! ## What is described -/

theorem isOperatorKey_empty : isOperatorKey "" = false := by decide

theorem DescribesOperators.hasOperatorKey_allOperators {members : List (String × Json)}
    {children : List (String × Condition)} (h : DescribesOperators members children) :
    (allOperators children).hasOperatorKey = anyOperatorKey children := by
  cases h with
  | nil => rfl
  | cons hc hrest =>
    cases hrest with
    | nil => simp [allOperators, anyOperatorKey, isOperatorKey_empty]
    | cons hd hrest => rfl

mutual

theorem Describes.misplaced_eq {v : Json} {c : Condition} (h : Describes v c) :
    misplaced .plainObject v = false ∧ misplaced .conjunction v = c.hasOperatorKey := by
  match h with
  | .value harray hobject =>
    cases v with
    | array items => exact absurd rfl (harray items)
    | object members => exact absurd rfl (hobject members)
    | _ => exact ⟨rfl, rfl⟩
  | .items hitems => exact hitems.misplaced_eq
  | .fields hop hany hfields =>
    obtain ⟨hplain, hkeys⟩ := hfields.misplaced_eq
    rw [misplaced, misplaced, if_neg hop, if_neg hop, hasOperatorKey, ← hkeys, hplain]
    simp [operatorAmong, hany]
  | .operators hop hoperators =>
    rw [misplaced, misplaced, if_pos hop, if_pos hop, hoperators.hasOperatorKey_allOperators]
    exact hoperators.misplaced_eq

theorem DescribesItems.misplaced_eq {items : List Json} {children : List (String × Condition)}
    (h : DescribesItems items children) :
    misplacedInItems .plainObject items = false ∧
      misplacedInItems .conjunction items = anyOperatorKey children := by
  match h with
  | .nil => exact ⟨rfl, rfl⟩
  | .cons hv hrest =>
    simp [misplacedInItems, anyOperatorKey, hv.misplaced_eq, hrest.misplaced_eq,
      isOperatorKey_empty]

theorem DescribesFields.misplaced_eq {members : List (String × Json)}
    {children : List (String × Condition)} (h : DescribesFields members children) :
    misplacedInFields .plainObject members = false ∧
      ((members.any fun member => isOperatorKey member.1) ||
        misplacedInFields .conjunction members) = anyOperatorKey children := by
  match h with
  | .nil => exact ⟨rfl, rfl⟩
  | .cons hv hrest =>
    obtain ⟨hplain, hkeys⟩ := hrest.misplaced_eq
    simp only [misplacedInFields, anyOperatorKey, List.any_cons, hv.misplaced_eq, hplain, ← hkeys]
    refine ⟨rfl, ?_⟩
    ac_rfl

theorem DescribesOperators.misplaced_eq {members : List (String × Json)}
    {children : List (String × Condition)} (h : DescribesOperators members children) :
    misplacedInOperands .plainObject members = false ∧
      misplacedInOperands .conjunction members = anyOperatorKey children := by
  match h with
  | .nil => exact ⟨rfl, rfl⟩
  | .cons (c := c) hc hrest =>
    obtain ⟨hplain, hkeys⟩ := hrest.misplaced_eq
    rw [anyOperatorKey, ← hkeys, isOperatorKey_empty]
    match hc with
    | .conjunction hfields =>
      obtain ⟨hf, hf'⟩ := hfields.misplaced_eq
      rw [misplacedInOperands, misplacedInOperands, hplain, hasOperatorKey, ← hf', hf]
      simp [operatorAmong]
    | .disjunction hitems | .exclusive hitems =>
      rw [misplacedInOperands, misplacedInOperands, hplain, hasOperatorKey, hitems.misplaced_eq.1,
        hitems.misplaced_eq.2]
      simp
    | .negation hv =>
      rw [misplacedInOperands, misplacedInOperands, hplain, hasOperatorKey, hv.misplaced_eq.1,
        hv.misplaced_eq.2]
      simp
    | .test hand hor hxor hnot hcomparator =>
      rw [misplacedInOperands, misplacedInOperands, hplain, hasOperatorKey]
      · simp
      all_goals intros; contradiction

end

/-- **Operators in the place of fields.** A document with an operator in an object of fields is
refused. An accepted document has an operator in the object of some `$and` if and only if some
junction of its condition has an operator for a key. -/
theorem hasOperatorKey_of_ofJson (v : Json) (limit : Nat) :
    (misplaced .plainObject v → ∃ e, ofJson limit v = .error e) ∧
      ∀ c, ofJson limit v = .ok c → (c.hasOperatorKey ↔ misplaced .conjunction v) := by
  have hdescribes : ∀ c, ofJson limit v = .ok c → Describes v c := by
    intro c hc
    have hlimited := limited_classify limit 0 v
    exact describes_of_meaning (hlimited.eq_ok_iff.mp hc).1
  constructor
  · intro hplain
    cases hc : ofJson limit v with
    | error e => exact ⟨e, rfl⟩
    | ok c =>
      rw [(hdescribes c hc).misplaced_eq.1] at hplain
      cases hplain
  · intro c hc
    rw [(hdescribes c hc).misplaced_eq.2]

/-- `[{"age": {"from": 18, "$lt": 65}}]` -/
def mixedRange : Json :=
  .array [.object [("age", .object [("from", .number (.int 18)), ("$lt", .number (.int 65))])]]

/-- `{"$and": {"age": 18, "$lt": 65}}` -/
def mixedConjunction : Json :=
  .object [("$and", .object [("age", .number (.int 18)), ("$lt", .number (.int 65))])]

theorem hasOperatorKey_of_ofJson_mixed : (∃ e, ofJson 64 mixedRange = .error e) ∧
    ∃ c, ofJson 64 mixedConjunction = .ok c ∧ c.hasOperatorKey := by
  have haccepted : ∃ c, ofJson 64 mixedConjunction = .ok c := ⟨_, rfl⟩
  obtain ⟨c, hc⟩ := haccepted
  constructor
  · exact (hasOperatorKey_of_ofJson mixedRange 64).1 (by decide)
  · exact ⟨c, hc, ((hasOperatorKey_of_ofJson mixedConjunction 64).2 c hc).mpr (by decide)⟩

theorem conjunction_takes_operator_for_field :
    ofJson defaultMaxDepth mixedConjunction =
      .ok (.and [("age", .scalar (.number (.int 18))), ("$lt", .scalar (.number (.int 65)))]) ∧
    (Condition.and [("age", .scalar (.number (.int 18))),
      ("$lt", .scalar (.number (.int 65)))]).hasOperatorKey := by
  constructor <;> rfl

end Condition

end GraphQuery
