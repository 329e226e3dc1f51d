import GraphQuery.Proofs.Condition.Level
import GraphQuery.Proofs.Document.Describes
import GraphQuery.Query
import Mathlib.Data.List.Forall2

/-!
# Documents with operators written out

An array may be written as a `$or`, a plain object as a `$and` and any other value as a `$eq`.
`ofJson_of_restates`: where a condition is expected this makes no difference, at any number of
places and under any limit.
-/

namespace GraphQuery

namespace Condition

/-! ## Conditions that stand for one another -/

/-- Conditions with the same text in all surroundings, which store the same. -/
structure Interchangeable (c d : Condition) : Prop where
  isEmpty : c.isEmpty = d.isEmpty
  render : ∀ outer field s, c.render outer field s = d.render outer field s

/-- Children with the same keys whose conditions stand for one another. -/
def SameChildren : List (String × Condition) → List (String × Condition) → Prop :=
  List.Forall₂ fun child child' => child.1 = child'.1 ∧ Interchangeable child.2 child'.2

theorem Interchangeable.refl (c : Condition) : Interchangeable c c :=
  ⟨rfl, fun _ _ _ => rfl⟩

theorem interchangeable_equality (v : Json) :
    Interchangeable (.scalar v) (.compare (.binary .equals (.value v))) := by
  refine ⟨by rw [isEmpty, isEmpty], fun outer field s => ?_⟩
  have hsymbol : " " ++ Operator.equals.symbol ++ " " = " = " := rfl
  simp only [Condition.render, Comparator.render, Operand.render, String.append_assoc, ← hsymbol]

section
variable {cs ds : List (String × Condition)}

theorem SameChildren.allEmpty_eq (h : SameChildren cs ds) : allEmpty cs = allEmpty ds := by
  induction h with
  | nil => rfl
  | cons hchild _ ih => rw [allEmpty, allEmpty, hchild.2.isEmpty, ih]

theorem SameChildren.length_live_eq (h : SameChildren cs ds) :
    (live cs).length = (live ds).length := by
  induction h with
  | nil => rfl
  | cons hchild _ ih =>
    simp only [live, List.filter_cons, hchild.2.isEmpty]
    split
    · exact congrArg (· + 1) ih
    · exact ih

theorem SameChildren.renderChildren_eq (h : SameChildren cs ds) (outer : Precedence)
    (field : String) : ∀ s : Scope,
    renderChildren outer field cs s = renderChildren outer field ds s := by
  induction h with
  | nil => exact fun s => rfl
  | cons hchild _ ih =>
    intro s
    rw [renderChildren_cons, renderChildren_cons, hchild.1, hchild.2.render]
    simp only [ih]

theorem SameChildren.junction (h : SameChildren cs ds) (k : Connective) :
    Interchangeable (.junction k cs) (.junction k ds) := by
  refine ⟨?_, fun outer field s => ?_⟩
  · rw [isEmpty, isEmpty, h.allEmpty_eq]
  · simp only [Condition.render, childPrecedence, h.length_live_eq, h.renderChildren_eq]

theorem SameChildren.allOperators (h : SameChildren cs ds) :
    Interchangeable (allOperators cs) (allOperators ds) := by
  cases h with
  | nil => exact .refl _
  | cons hchild hrest =>
    cases hrest with
    | nil => exact hchild.2
    | cons hnext hrest => exact SameChildren.junction (.cons hchild (.cons hnext hrest)) .and

end

theorem interchangeable_not {c d : Condition} (h : Interchangeable c d) :
    Interchangeable (.not c) (.not d) := by
  refine ⟨?_, fun outer field s => ?_⟩
  · rw [isEmpty, isEmpty, h.isEmpty]
  · simp only [Condition.render, h.render]

/-! ## Results that agree -/

/-- The same error, or results that are related. -/
def Agree {α β : Type} (R : α → β → Prop) : Except DocumentError α → Except DocumentError β → Prop
  | .ok a, .ok b => R a b
  | .error e, .error e' => e = e'
  | _, _ => False

namespace Agree

variable {α α' β β' γ γ' : Type} {R : α → α' → Prop} {S : β → β' → Prop} {T : γ → γ' → Prop}
  {x : Except DocumentError α} {x' : Except DocumentError α'}
  {y : Except DocumentError β} {y' : Except DocumentError β'}

theorem refl {R : α → α → Prop} (hR : ∀ a, R a a) (x : Except DocumentError α) : Agree R x x := by
  cases x with
  | error e => exact rfl
  | ok a => exact hR a

theorem bind (h : Agree R x x') {f : α → Except DocumentError β} {g : α' → Except DocumentError β'}
    (hfg : ∀ a a', R a a' → Agree S (f a) (g a')) : Agree S (x >>= f) (x' >>= g) := by
  cases x with
  | error e =>
    cases x' with
    | error e' => exact h
    | ok a' => exact h.elim
  | ok a =>
    cases x' with
    | error e' => exact h.elim
    | ok a' => exact hfg a a' h

theorem map (h : Agree R x x') {f : α → β} {g : α' → β'} (hfg : ∀ a a', R a a' → S (f a) (g a')) :
    Agree S (x.map f) (x'.map g) := by
  have hbind := h.bind (f := fun a => .ok (f a)) (g := fun a' => .ok (g a')) hfg
  cases x <;> cases x' <;> exact hbind

theorem both (hx : Agree R x x') (hy : Agree S y y') {f : α → β → γ} {g : α' → β' → γ'}
    (hfg : ∀ a a' b b', R a a' → S b b' → T (f a b) (g a' b')) :
    Agree T (do let a ← x; let b ← y; return f a b) (do let a ← x'; let b ← y'; return g a b) :=
  hx.bind fun a a' ha => hy.bind fun b b' hb => hfg a a' b b' ha hb

/-- What is refused for its depth is refused on both sides. -/
theorem within (h : Agree R x x') (limit depth : Nat) :
    Agree R (if limit < depth then .error (.tooDeep limit) else x)
      (if limit < depth then .error (.tooDeep limit) else x') := by
  by_cases hlimit : limit < depth
  · rw [if_pos hlimit, if_pos hlimit]
    exact rfl
  · rw [if_neg hlimit, if_neg hlimit]
    exact h

end Agree

/-! ## One operator -/

/-- The condition of one operator with its operand. -/
def classifyOperator (limit depth : Nat) : String → Json → Except DocumentError Condition
  | "$and", .object members =>
    (classifyFields limit (depth + 1) members).map (Condition.junction .and)
  | "$and", _ => .error (.expected "$and" .object)
  | "$or", .array items => (classifyItems limit (depth + 1) items).map (Condition.junction .or)
  | "$or", _ => .error (.expected "$or" .array)
  | "$xor", .array items => (classifyItems limit (depth + 1) items).map (Condition.junction .xor)
  | "$xor", _ => .error (.expected "$xor" .array)
  | "$not", v => (classify limit (depth + 1) v).map Condition.not
  | operator, v => (Comparator.ofOperator operator v).map Condition.compare

section
variable {limit depth : Nat}

theorem classifyOperators_cons (operator : String) (v : Json) (rest : List (String × Json)) :
    classifyOperators limit depth ((operator, v) :: rest) = do
      let c ← classifyOperator limit depth operator v
      let others ← classifyOperators limit depth rest
      return ("", c) :: others := by
  induction operator, v using operatorCases with
  | conjunction | disjunction | exclusive | negation =>
    rw [classifyOperators, classifyOperator]
  | notObject v hne | notArray v hne | notExclusive v hne =>
    rw [classifyOperators, classifyOperator] <;> exact hne
  | test operator v hand hor hxor hnot =>
    rw [classifyOperators, classifyOperator]
    -- none of the rules for the four operators applies
    all_goals first | assumption | (intro _ h; contradiction)

theorem classify_operator {operator : String} (hop : isOperatorKey operator = true) (v : Json) :
    classify limit depth (.object [(operator, v)]) =
      if limit < depth then .error (.tooDeep limit)
      else classifyOperator limit depth operator v := by
  rw [classify]
  by_cases hlimit : limit < depth
  · rw [if_pos hlimit, if_pos hlimit]
  · rw [if_neg hlimit, if_neg hlimit, if_pos (by simpa using hop), classifyOperators_cons,
      classifyOperators]
    cases classifyOperator limit depth operator v <;> rfl

end

/-! ## Values written out -/

mutual

/-- The second value is the first one, written out at some of the places where a condition is
expected. -/
inductive Restates : Json → Json → Prop
  | value {v} : (∀ items, v ≠ .array items) → (∀ members, v ≠ .object members) → Restates v v
  | equality {v} : (∀ items, v ≠ .array items) → (∀ members, v ≠ .object members) →
      Restates v (.object [("$eq", v)])
  | items {items items'} : RestatesItems items items' → Restates (.array items) (.array items')
  | disjunction {items items'} : RestatesItems items items' →
      Restates (.array items) (.object [("$or", .array items')])
  | members {members members'} : RestatesMembers members members' →
      Restates (.object members) (.object members')
  | conjunction {members members'} :
      (members.any fun member => isOperatorKey member.1) = false →
      RestatesFields members members' →
      Restates (.object members) (.object [("$and", .object members')])

inductive RestatesItems : List Json → List Json → Prop
  | nil : RestatesItems [] []
  | cons {v w rest rest'} : Restates v w → RestatesItems rest rest' →
      RestatesItems (v :: rest) (w :: rest')

inductive RestatesFields : List (String × Json) → List (String × Json) → Prop
  | nil : RestatesFields [] []
  | cons {key v w rest rest'} : Restates v w → RestatesFields rest rest' →
      RestatesFields ((key, v) :: rest) ((key, w) :: rest')

inductive RestatesMembers : List (String × Json) → List (String × Json) → Prop
  | nil : RestatesMembers [] []
  | field {key v w rest rest'} : isOperatorKey key = false → Restates v w →
      RestatesMembers rest rest' → RestatesMembers ((key, v) :: rest) ((key, w) :: rest')
  | operator {operator v w rest rest'} : isOperatorKey operator = true →
      RestatesOperand operator v w → RestatesMembers rest rest' →
      RestatesMembers ((operator, v) :: rest) ((operator, w) :: rest')

/-- Conditions are expected in the operands of four operators only. -/
inductive RestatesOperand : String → Json → Json → Prop
  | same {operator v} : RestatesOperand operator v v
  | conjunction {members members'} : RestatesFields members members' →
      RestatesOperand "$and" (.object members) (.object members')
  | disjunction {items items'} : RestatesItems items items' →
      RestatesOperand "$or" (.array items) (.array items')
  | exclusive {items items'} : RestatesItems items items' →
      RestatesOperand "$xor" (.array items) (.array items')
  | negation {v w} : Restates v w → RestatesOperand "$not" v w

end

theorem RestatesMembers.keys_eq {members members' : List (String × Json)}
    (h : RestatesMembers members members') : members.map Prod.fst = members'.map Prod.fst := by
  match h with
  | .nil => rfl
  | .field _ _ hrest | .operator _ _ hrest =>
    rw [List.map_cons, List.map_cons, hrest.keys_eq]

/-! ## Classifying values written out -/

theorem classify_scalar {limit depth : Nat} {v : Json} (harray : ∀ items, v ≠ .array items)
    (hobject : ∀ members, v ≠ .object members) :
    classify limit depth v =
      if limit < depth then .error (.tooDeep limit) else .ok (.scalar v) := by
  cases v with
  | array items => exact absurd rfl (harray items)
  | object members => exact absurd rfl (hobject members)
  | _ => rw [classify.eq_def]

theorem ofOperator_equality {v : Json} (hobject : ∀ members, v ≠ .object members) :
    Comparator.ofOperator "$eq" v = .ok (.binary .equals (.value v)) := by
  cases v with
  | object members => exact absurd rfl (hobject members)
  | _ => rfl

section
variable {members members' : List (String × Json)}

theorem any_eq_of_keys_eq (h : members.map Prod.fst = members'.map Prod.fst) (p : String → Bool) :
    (members.any fun member => p member.1) = members'.any fun member => p member.1 := by
  have hany := congrArg (List.any · p) h
  rwa [List.any_map, List.any_map] at hany

theorem areOperators_iff_of_keys_eq (h : members.map Prod.fst = members'.map Prod.fst) :
    AreOperators members ↔ AreOperators members' := by
  have hnil : members = [] ↔ members' = [] := by
    rw [← List.map_eq_nil_iff, h, List.map_eq_nil_iff]
  have hall := congrArg (List.all · isOperatorKey) h
  simp only [List.all_map] at hall
  exact and_congr (not_congr hnil) (Bool.eq_iff_iff.mp hall)

theorem not_areOperators_of_plain
    (hplain : (members.any fun member => isOperatorKey member.1) = false) :
    ¬ AreOperators members := by
  intro h
  obtain ⟨member, hmember⟩ := List.exists_mem_of_ne_nil members h.1
  have hkey := List.all_eq_true.mp h.2 member hmember
  exact List.any_eq_false.mp hplain member hmember hkey

theorem classify_plain (hplain : (members.any fun member => isOperatorKey member.1) = false)
    (limit depth : Nat) :
    classify limit depth (.object members) =
      if limit < depth then .error (.tooDeep limit)
      else (classifyFields limit (depth + 1) members).map (Condition.junction .and) := by
  rw [classify, if_neg (not_areOperators_of_plain hplain), hplain]
  rfl

end

mutual

theorem Restates.agree {v w : Json} (h : Restates v w) (limit depth : Nat) :
    Agree Interchangeable (classify limit depth v) (classify limit depth w) := by
  match h with
  | .value _ _ => exact .refl .refl _
  | .equality harray hobject =>
    rw [classify_scalar harray hobject, classify_operator (by decide)]
    refine Agree.within ?_ limit depth
    show Agree _ _ ((Comparator.ofOperator "$eq" v).map Condition.compare)
    rw [ofOperator_equality hobject]
    exact interchangeable_equality v
  | .items hitems =>
    rw [classify, classify]
    exact ((hitems.agree limit (depth + 1)).map fun _ _ h => h.junction .or).within limit depth
  | .disjunction hitems =>
    rw [classify, classify_operator (by decide)]
    exact ((hitems.agree limit (depth + 1)).map fun _ _ h => h.junction .or).within limit depth
  | @Restates.members members members' hmembers =>
    have hkeys := hmembers.keys_eq
    have hany := any_eq_of_keys_eq hkeys isOperatorKey
    by_cases hplain : (members.any fun member => isOperatorKey member.1) = false
    · rw [classify_plain hplain, classify_plain (hany.symm.trans hplain)]
      have hfields := hmembers.agree_fields hplain limit (depth + 1)
      exact (hfields.map fun _ _ h => h.junction .and).within limit depth
    · have hoperator := Bool.of_not_eq_false hplain
      rw [classify, classify, hoperator, hany.symm.trans hoperator]
      refine Agree.within ?_ limit depth
      by_cases hop : AreOperators members
      · rw [if_pos hop, if_pos ((areOperators_iff_of_keys_eq hkeys).mp hop)]
        exact (hmembers.agree_operators hop.2 limit depth).map fun _ _ h => h.allOperators
      · rw [if_neg hop, if_neg fun h => hop ((areOperators_iff_of_keys_eq hkeys).mpr h)]
        exact rfl
  | .conjunction hplain hfields =>
    rw [classify_plain hplain, classify_operator (by decide)]
    exact ((hfields.agree limit (depth + 1)).map fun _ _ h => h.junction .and).within limit depth

theorem RestatesItems.agree {items items' : List Json} (h : RestatesItems items items')
    (limit depth : Nat) :
    Agree SameChildren (classifyItems limit depth items) (classifyItems limit depth items') := by
  match h with
  | .nil => exact List.Forall₂.nil
  | .cons hv hrest =>
    rw [classifyItems, classifyItems]
    exact (hv.agree limit depth).both (hrest.agree limit depth)
      fun _ _ _ _ h hs => .cons ⟨rfl, h⟩ hs

theorem RestatesFields.agree {members members' : List (String × Json)}
    (h : RestatesFields members members') (limit depth : Nat) :
    Agree SameChildren (classifyFields limit depth members)
      (classifyFields limit depth members') := by
  match h with
  | .nil => exact List.Forall₂.nil
  | .cons hv hrest =>
    rw [classifyFields, classifyFields]
    exact (hv.agree limit depth).both (hrest.agree limit depth)
      fun _ _ _ _ h hs => .cons ⟨rfl, h⟩ hs

theorem RestatesMembers.agree_fields {members members' : List (String × Json)}
    (h : RestatesMembers members members')
    (hplain : (members.any fun member => isOperatorKey member.1) = false) (limit depth : Nat) :
    Agree SameChildren (classifyFields limit depth members)
      (classifyFields limit depth members') := by
  match h with
  | .nil => exact List.Forall₂.nil
  | .field hkey hv hrest =>
    rw [List.any_cons, hkey, Bool.false_or] at hplain
    rw [classifyFields, classifyFields]
    exact (hv.agree limit depth).both (hrest.agree_fields hplain limit depth)
      fun _ _ _ _ h hs => .cons ⟨rfl, h⟩ hs
  | .operator hkey _ _ => simp [hkey] at hplain

theorem RestatesMembers.agree_operators {members members' : List (String × Json)}
    (h : RestatesMembers members members')
    (hall : (members.all fun member => isOperatorKey member.1) = true) (limit depth : Nat) :
    Agree SameChildren (classifyOperators limit depth members)
      (classifyOperators limit depth members') := by
  match h with
  | .nil => exact List.Forall₂.nil
  | .field hkey _ _ => simp [hkey] at hall
  | .operator hkey hv hrest =>
    rw [List.all_cons, hkey, Bool.true_and] at hall
    rw [classifyOperators_cons, classifyOperators_cons]
    exact (hv.agree limit depth).both (hrest.agree_operators hall limit depth)
      fun _ _ _ _ h hs => .cons ⟨rfl, h⟩ hs

theorem RestatesOperand.agree {operator : String} {v w : Json} (h : RestatesOperand operator v w)
    (limit depth : Nat) :
    Agree Interchangeable (classifyOperator limit depth operator v)
      (classifyOperator limit depth operator w) := by
  match h with
  | .same => exact .refl .refl _
  | .conjunction hfields =>
    exact (hfields.agree limit (depth + 1)).map fun _ _ h => h.junction .and
  | .disjunction hitems =>
    exact (hitems.agree limit (depth + 1)).map fun _ _ h => h.junction .or
  | .exclusive hitems =>
    exact (hitems.agree limit (depth + 1)).map fun _ _ h => h.junction .xor
  | .negation hv =>
    exact (hv.agree limit (depth + 1)).map fun _ _ h => interchangeable_not h

end

theorem Interchangeable.compile_eq {c d : Condition} (h : Interchangeable c d) (outer : Precedence)
    (field : String) : c.compile outer field = d.compile outer field := by
  rw [compile, compile, h.render]

/-- **Operators that go without saying may be said.** A value and one that writes some of its
arrays, plain objects and other values out as `$or`, `$and` and `$eq` are accepted or refused
together, and refused with the same error. The conditions that they describe are empty together,
have the same text in all surroundings, store the same, and so compile to the same query. -/
theorem ofJson_of_restates {v w : Json} (h : Restates v w) (limit : Nat) :
    (∀ e, ofJson limit v = .error e ↔ ofJson limit w = .error e) ∧
      ((∃ c, ofJson limit v = .ok c) ↔ ∃ d, ofJson limit w = .ok d) ∧
      ∀ c d, ofJson limit v = .ok c → ofJson limit w = .ok d →
        c.isEmpty = d.isEmpty ∧
        (∀ outer field, c.compile outer field = d.compile outer field) ∧
        ∀ outer field s, c.render outer field s = d.render outer field s := by
  have hagree : Agree Interchangeable (ofJson limit v) (ofJson limit w) := h.agree limit 1
  revert hagree
  cases ofJson limit v with
  | error e =>
    cases ofJson limit w with
    | error e' =>
      rintro rfl
      refine ⟨fun _ => .rfl, ⟨?_, ?_⟩, ?_⟩
      · rintro ⟨_, ⟨⟩⟩
      · rintro ⟨_, ⟨⟩⟩
      · rintro _ _ ⟨⟩
    | ok d => exact False.elim
  | ok c =>
    cases ofJson limit w with
    | error e' => exact False.elim
    | ok d =>
      intro hsame
      refine ⟨fun e => ⟨?_, ?_⟩, ⟨fun _ => ⟨d, rfl⟩, fun _ => ⟨c, rfl⟩⟩, ?_⟩
      · rintro ⟨⟩
      · rintro ⟨⟩
      · rintro _ _ ⟨⟩ ⟨⟩
        exact ⟨hsame.isEmpty, hsame.compile_eq, hsame.render⟩

/-- `{"tags": ["a", {"$not": {"x": null}}], "n": {"$xor": [[], {"$in": ["b"]}]}}` -/
def implicitOperators : Json :=
  .object [("tags", .array [.string "a", .object [("$not", .object [("x", .null)])]]),
    ("n", .object [("$xor", .array [.array [], .object [("$in", .array [.string "b"])]])])]

/-- The same with `$and` at the root and around `x`, `$or` for two of the arrays, and `$eq`. -/
def explicitOperators : Json :=
  .object [("$and", .object
    [("tags", .object [("$or", .array [.object [("$eq", .string "a")],
      .object [("$not", .object [("$and", .object [("x", .object [("$eq", .null)])])])]])]),
    ("n", .object [("$xor", .array [.object [("$or", .array [])],
      .object [("$in", .array [.string "b"])]])])])]

theorem restates_implicitOperators : Restates implicitOperators explicitOperators := by
  have hnull : Restates .null (.object [("$eq", .null)]) := .equality (by simp) (by simp)
  have ha : Restates (.string "a") (.object [("$eq", .string "a")]) :=
    .equality (by simp) (by simp)
  have hnot : Restates (.object [("$not", .object [("x", .null)])])
      (.object [("$not", .object [("$and", .object [("x", .object [("$eq", .null)])])])]) :=
    .members (.operator (by decide) (.negation (.conjunction (by decide) (.cons hnull .nil))) .nil)
  have hin : Restates (.object [("$in", .array [.string "b"])])
      (.object [("$in", .array [.string "b"])]) :=
    .members (.operator (by decide) .same .nil)
  have hxor := RestatesOperand.exclusive (.cons (.disjunction .nil) (.cons hin .nil))
  exact .conjunction (by decide)
    (.cons (.disjunction (.cons ha (.cons hnot .nil)))
      (.cons (.members (.operator (by decide) hxor .nil)) .nil))

theorem ofJson_of_restates_implicitOperators : Restates implicitOperators explicitOperators ∧
    (∃ c d, ofJson 5 implicitOperators = .ok c ∧ ofJson 5 explicitOperators = .ok d ∧
      c.compile .none "" = d.compile .none "") ∧
    ofJson 4 explicitOperators = .error (.tooDeep 4) := by
  have hrefused : ofJson 4 implicitOperators = .error (.tooDeep 4) := rfl
  obtain ⟨-, hok, hsame⟩ := ofJson_of_restates restates_implicitOperators 5
  obtain ⟨d, hd⟩ := hok.mp ⟨_, rfl⟩
  exact ⟨restates_implicitOperators, ⟨_, d, rfl, hd, (hsame _ d rfl hd).2.1 .none ""⟩,
    ((ofJson_of_restates restates_implicitOperators 4).1 _).mp hrefused⟩

end Condition

end GraphQuery
