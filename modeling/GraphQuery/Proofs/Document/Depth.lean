import GraphQuery.Condition.Document

/-!
# The limit of nesting

`meaning` reads a document without any limit. A limit accepts the documents that are not nested
deeper and changes nothing else (`ofJson_eq_ok_iff`).
-/

namespace GraphQuery

namespace Condition

mutual

/-- The condition that a value describes, however deep it is nested. -/
def meaning : Json → Except DocumentError Condition
  | .array items => (itemMeanings items).map (.junction .or)
  | .object members =>
    if members ≠ [] ∧ members.all fun member => isOperatorKey member.1 then
      (operatorMeanings members).map allOperators
    else if members.any fun member => isOperatorKey member.1 then .error .mixedKeys
    else (fieldMeanings members).map (.junction .and)
  | v => .ok (.scalar v)

def itemMeanings : List Json → Except DocumentError (List (String × Condition))
  | [] => .ok []
  | v :: rest => do
    let c ← meaning v
    let others ← itemMeanings rest
    return ("", c) :: others

def fieldMeanings : List (String × Json) → Except DocumentError (List (String × Condition))
  | [] => .ok []
  | (key, v) :: rest => do
    let c ← meaning v
    let others ← fieldMeanings rest
    return (key, c) :: others

def operatorMeanings : List (String × Json) → Except DocumentError (List (String × Condition))
  | [] => .ok []
  | (operator, v) :: rest => do
    let c ← match operator, v with
      | "$and", .object members => (fieldMeanings members).map (Condition.junction .and)
      | "$and", _ => .error (.expected operator .object)
      | "$or", .array items => (itemMeanings items).map (Condition.junction .or)
      | "$or", _ => .error (.expected operator .array)
      | "$xor", .array items => (itemMeanings items).map (Condition.junction .xor)
      | "$xor", _ => .error (.expected operator .array)
      | "$not", v => (meaning v).map Condition.not
      | operator, v => (Comparator.ofOperator operator v).map Condition.compare
    let others ← operatorMeanings rest
    return ("", c) :: others

end

mutual

/-- How deep the conditions in a value are nested. Operands of comparisons do not count, nor do the
array of `$or` and `$xor` and the object of `$and` themselves. -/
def documentDepth : Json → Nat
  | .array items => deepestItem items + 1
  | .object members =>
    if members ≠ [] ∧ members.all fun member => isOperatorKey member.1 then
      deepestOperand members + 1
    else deepestField members + 1
  | _ => 1

def deepestItem : List Json → Nat
  | [] => 0
  | v :: rest => max (documentDepth v) (deepestItem rest)

def deepestField : List (String × Json) → Nat
  | [] => 0
  | (_, v) :: rest => max (documentDepth v) (deepestField rest)

def deepestOperand : List (String × Json) → Nat
  | [] => 0
  | (operator, v) :: rest =>
    max (match operator, v with
      | "$and", .object members => deepestField members
      | "$or", .array items => deepestItem items
      | "$xor", .array items => deepestItem items
      | "$not", v => documentDepth v
      | _, _ => 0) (deepestOperand rest)

end

theorem documentDepth_pos (v : Json) : 1 ≤ documentDepth v := by
  cases v with
  | array items => exact Nat.succ_pos _
  | object members =>
    rw [documentDepth]
    split <;> exact Nat.succ_pos _
  | _ => exact Nat.le_refl 1

/-! ## Results within a limit -/

/-- A result that needs nesting up to a level. -/
def upTo {α : Type} (limit level : Nat) (a : α) : Except DocumentError α :=
  if level ≤ limit then .ok a else .error (.tooDeep limit)

/-- The second result is the first one, which needs nesting up to a level, under a limit. -/
def Limited {α : Type} (limit level : Nat) : Except DocumentError α → Except DocumentError α → Prop
  | .ok a, r => r = upTo limit level a
  | .error _, r => ∃ e, r = .error e

namespace Limited

variable {α β γ : Type} {limit m n : Nat} {x r : Except DocumentError α} {y t : Except DocumentError β}

theorem refl (h : n ≤ limit) (x : Except DocumentError α) : Limited limit n x x := by
  cases x with
  | error e => exact ⟨e, rfl⟩
  | ok a => exact (if_pos h).symm

theorem tooDeep (h : limit < n) (x : Except DocumentError α) :
    Limited limit n x (.error (.tooDeep limit)) := by
  cases x with
  | error e => exact ⟨_, rfl⟩
  | ok a => exact (if_neg (by omega)).symm

theorem map (h : Limited limit n x r) (f : α → β) : Limited limit n (x.map f) (r.map f) := by
  cases x with
  | error e =>
    obtain ⟨e', rfl⟩ := h
    exact ⟨e', rfl⟩
  | ok a =>
    obtain rfl := h
    show (upTo limit n a).map f = upTo limit n (f a)
    unfold upTo
    split <;> rfl

theorem both (hx : Limited limit m x r) (hy : Limited limit n y t) (f : α → β → γ) :
    Limited limit (max m n) (do let a ← x; let b ← y; return f a b)
      (do let a ← r; let b ← t; return f a b) := by
  cases x with
  | error e =>
    obtain ⟨e', rfl⟩ := hx
    exact ⟨e', rfl⟩
  | ok a =>
    obtain rfl := hx
    cases y with
    | error e =>
      obtain ⟨e', rfl⟩ := hy
      unfold upTo
      split
      · exact ⟨e', rfl⟩
      · exact ⟨_, rfl⟩
    | ok b =>
      obtain rfl := hy
      show _ = upTo limit (max m n) (f a b)
      unfold upTo
      by_cases hm : m ≤ limit
      · by_cases hn : n ≤ limit
        · rw [if_pos hm, if_pos hn, if_pos (Nat.max_le.mpr ⟨hm, hn⟩)]
          rfl
        · rw [if_pos hm, if_neg hn, if_neg fun h => hn (Nat.max_le.mp h).2]
          rfl
      · rw [if_neg hm, if_neg fun h => hm (Nat.max_le.mp h).1]
        rfl

theorem eq_ok_iff (h : Limited limit n x r) {a : α} : r = .ok a ↔ x = .ok a ∧ n ≤ limit := by
  cases x with
  | error e =>
    obtain ⟨e', rfl⟩ := h
    exact ⟨fun h => (nomatch h), fun h => (nomatch h.1)⟩
  | ok b =>
    obtain rfl := h
    unfold upTo
    by_cases hn : n ≤ limit
    · rw [if_pos hn]
      exact ⟨fun h => ⟨h, hn⟩, fun h => h.1⟩
    · rw [if_neg hn]
      exact ⟨fun h => (nomatch h), fun h => absurd h.2 hn⟩

end Limited

/-! ## Members of an object of operators -/

@[elab_as_elim]
theorem operatorCases {P : String → Json → Prop}
    (conjunction : ∀ members, P "$and" (.object members))
    (notObject : ∀ v, (∀ members, v ≠ .object members) → P "$and" v)
    (disjunction : ∀ items, P "$or" (.array items))
    (notArray : ∀ v, (∀ items, v ≠ .array items) → P "$or" v)
    (exclusive : ∀ items, P "$xor" (.array items))
    (notExclusive : ∀ v, (∀ items, v ≠ .array items) → P "$xor" v)
    (negation : ∀ v, P "$not" v)
    (test : ∀ operator v, operator ≠ "$and" → operator ≠ "$or" → operator ≠ "$xor" →
      operator ≠ "$not" → P operator v) (operator : String) (v : Json) : P operator v := by
  by_cases hand : operator = "$and"
  · subst hand
    cases v with
    | object members => exact conjunction members
    | _ => exact notObject _ fun _ h => nomatch h
  by_cases hor : operator = "$or"
  · subst hor
    cases v with
    | array items => exact disjunction items
    | _ => exact notArray _ fun _ h => nomatch h
  by_cases hxor : operator = "$xor"
  · subst hxor
    cases v with
    | array items => exact exclusive items
    | _ => exact notExclusive _ fun _ h => nomatch h
  by_cases hnot : operator = "$not"
  · subst hnot
    exact negation v
  exact test operator v hand hor hxor hnot

theorem sizeOf_lt_of_mem_items {v : Json} {items : List Json} (h : v ∈ items) :
    sizeOf v < sizeOf (Json.array items) := by
  have := List.sizeOf_lt_of_mem h
  rw [Json.array.sizeOf_spec]
  omega

theorem sizeOf_lt_of_mem_members {member : String × Json} {members : List (String × Json)}
    (h : member ∈ members) : sizeOf member.2 < sizeOf (Json.object members) := by
  obtain ⟨key, v⟩ := member
  have := List.sizeOf_lt_of_mem h
  rw [Prod.mk.sizeOf_spec] at this
  rw [Json.object.sizeOf_spec]
  show sizeOf v < _
  omega

/-! ## The classification under a limit -/

section
variable {limit level : Nat}

theorem limited_classifyItems (h : level ≤ limit) {items : List Json}
    (ih : ∀ v ∈ items, Limited limit (level + documentDepth v) (meaning v) (classify limit (level + 1) v)) :
    Limited limit (level + deepestItem items) (itemMeanings items)
      (classifyItems limit (level + 1) items) := by
  induction items with
  | nil => exact .refl h _
  | cons v rest ihrest =>
    rw [classifyItems, itemMeanings, deepestItem, ← Nat.add_max_add_left]
    exact (ih v (List.mem_cons_self ..)).both
      (ihrest fun w hw => ih w (List.mem_cons_of_mem _ hw)) fun c others => ("", c) :: others

theorem limited_classifyFields (h : level ≤ limit) {members : List (String × Json)}
    (ih : ∀ member ∈ members, Limited limit (level + documentDepth member.2) (meaning member.2)
      (classify limit (level + 1) member.2)) :
    Limited limit (level + deepestField members) (fieldMeanings members)
      (classifyFields limit (level + 1) members) := by
  induction members with
  | nil => exact .refl h _
  | cons member rest ihrest =>
    obtain ⟨key, v⟩ := member
    rw [classifyFields, fieldMeanings, deepestField, ← Nat.add_max_add_left]
    exact (ih (key, v) (List.mem_cons_self ..)).both
      (ihrest fun w hw => ih w (List.mem_cons_of_mem _ hw)) fun c others => (key, c) :: others

theorem limited_classifyOperators (h : level ≤ limit) {members : List (String × Json)}
    (ih : ∀ member ∈ members, ∀ w : Json, sizeOf w ≤ sizeOf member.2 →
      Limited limit (level + documentDepth w) (meaning w) (classify limit (level + 1) w)) :
    Limited limit (level + deepestOperand members) (operatorMeanings members)
      (classifyOperators limit level members) := by
  induction members with
  | nil => exact .refl h _
  | cons member rest ihrest =>
    obtain ⟨operator, v⟩ := member
    have hrest := ihrest fun member hm => ih member (List.mem_cons_of_mem _ hm)
    have hv : ∀ w : Json, sizeOf w ≤ sizeOf v → _ := ih (operator, v) (List.mem_cons_self ..)
    clear ih ihrest
    induction operator, v using operatorCases with
    | conjunction members =>
      rw [classifyOperators, operatorMeanings, deepestOperand, ← Nat.add_max_add_left]
      have hfields := limited_classifyFields h fun member hm =>
        hv member.2 (Nat.le_of_lt (sizeOf_lt_of_mem_members hm))
      exact (hfields.map _).both hrest fun c others => ("", c) :: others
    | notObject v hne =>
      rw [classifyOperators, operatorMeanings]
      · exact ⟨_, rfl⟩
      · exact hne
      · exact hne
    | disjunction items =>
      rw [classifyOperators, operatorMeanings, deepestOperand, ← Nat.add_max_add_left]
      have hitems := limited_classifyItems h fun v hm =>
        hv v (Nat.le_of_lt (sizeOf_lt_of_mem_items hm))
      exact (hitems.map _).both hrest fun c others => ("", c) :: others
    | notArray v hne =>
      rw [classifyOperators, operatorMeanings]
      · exact ⟨_, rfl⟩
      · exact hne
      · exact hne
    | exclusive items =>
      rw [classifyOperators, operatorMeanings, deepestOperand, ← Nat.add_max_add_left]
      have hitems := limited_classifyItems h fun v hm =>
        hv v (Nat.le_of_lt (sizeOf_lt_of_mem_items hm))
      exact (hitems.map _).both hrest fun c others => ("", c) :: others
    | notExclusive v hne =>
      rw [classifyOperators, operatorMeanings]
      · exact ⟨_, rfl⟩
      · exact hne
      · exact hne
    | negation v =>
      rw [classifyOperators, operatorMeanings, deepestOperand, ← Nat.add_max_add_left]
      exact ((hv v (Nat.le_refl _)).map _).both hrest fun c others => ("", c) :: others
    | test operator v hand hor hxor hnot =>
      rw [classifyOperators, operatorMeanings, deepestOperand, ← Nat.add_max_add_left]
      · exact (Limited.refl h _).both hrest fun c others => ("", c) :: others
      -- none of the rules for the four operators applies
      all_goals first | assumption | (intro _ h; contradiction)

end

/-- **The limit cuts off what is deeper and nothing else.** -/
theorem limited_classify (limit level : Nat) (v : Json) :
    Limited limit (level + documentDepth v) (meaning v) (classify limit (level + 1) v) := by
  by_cases hlimit : limit < level + 1
  · have hpos := documentDepth_pos v
    rw [classify.eq_def, if_pos hlimit]
    exact .tooDeep (by omega) _
  have hle : level + 1 ≤ limit := Nat.not_lt.mp hlimit
  match v with
  | .null | .bool _ | .number _ | .string _ =>
    rw [classify.eq_def, if_neg hlimit]
    exact .refl hle _
  | .array items =>
    have ih : ∀ w ∈ items,
        Limited limit (level + 1 + documentDepth w) (meaning w) (classify limit (level + 1 + 1) w) :=
      fun w _ => limited_classify limit (level + 1) w
    rw [classify, if_neg hlimit, meaning, documentDepth, Nat.add_comm _ 1, ← Nat.add_assoc]
    exact (limited_classifyItems hle ih).map _
  | .object members =>
    rw [classify, if_neg hlimit, meaning, documentDepth]
    by_cases hop : members ≠ [] ∧ (members.all fun member => isOperatorKey member.1) = true
    · -- the members of `$and`, `$or` and `$xor` lie deeper in the document than their operator
      have ih : ∀ member ∈ members, ∀ w : Json, sizeOf w ≤ sizeOf member.2 →
          Limited limit (level + 1 + documentDepth w) (meaning w) (classify limit (level + 1 + 1) w) :=
        fun member _ w _ => limited_classify limit (level + 1) w
      rw [if_pos hop, if_pos hop, if_pos hop, Nat.add_comm _ 1, ← Nat.add_assoc]
      exact (limited_classifyOperators hle ih).map _
    · have ih : ∀ member ∈ members, Limited limit (level + 1 + documentDepth member.2) (meaning member.2)
          (classify limit (level + 1 + 1) member.2) :=
        fun member _ => limited_classify limit (level + 1) member.2
      rw [if_neg hop, if_neg hop, if_neg hop, Nat.add_comm _ 1, ← Nat.add_assoc]
      split
      · exact ⟨_, rfl⟩
      · exact (limited_classifyFields hle ih).map _
termination_by sizeOf v
decreasing_by
  · exact sizeOf_lt_of_mem_items ‹_›
  · exact Nat.lt_of_le_of_lt ‹sizeOf w ≤ _› (sizeOf_lt_of_mem_members ‹member ∈ _›)
  · exact sizeOf_lt_of_mem_members ‹_›

/-- **The limit is exact and changes nothing else.** A document is accepted under a limit if and only
if it describes a condition and is not nested deeper, and it then yields the condition that it
describes. A document that describes a condition but is nested deeper is refused for its depth. -/
theorem ofJson_eq_ok_iff (v : Json) (limit : Nat) :
    (∀ c, ofJson limit v = .ok c ↔ meaning v = .ok c ∧ documentDepth v ≤ limit) ∧
      (∀ c, meaning v = .ok c → limit < documentDepth v →
        ofJson limit v = .error (.tooDeep limit)) ∧
      (∀ higher c, limit ≤ higher → ofJson limit v = .ok c → ofJson higher v = .ok c) ∧
      ∀ other c c', ofJson limit v = .ok c → ofJson other v = .ok c' → c = c' := by
  have hlimited : ∀ limit, Limited limit (documentDepth v) (meaning v) (ofJson limit v) := by
    intro limit
    have h := limited_classify limit 0 v
    rwa [Nat.zero_add] at h
  have hok : ∀ limit c, ofJson limit v = .ok c ↔ meaning v = .ok c ∧ documentDepth v ≤ limit :=
    fun limit c => (hlimited limit).eq_ok_iff
  refine ⟨hok limit, fun c hc hdeep => ?_, fun higher c hle hc => ?_, fun other c c' hc hc' => ?_⟩
  · have h := hlimited limit
    rw [hc] at h
    exact h.trans (if_neg (Nat.not_le.mpr hdeep))
  · obtain ⟨hmeaning, hdepth⟩ := (hok limit c).mp hc
    exact (hok higher c).mpr ⟨hmeaning, Nat.le_trans hdepth hle⟩
  · have hsame := ((hok limit c).mp hc).1.symm.trans ((hok other c').mp hc').1
    exact Except.ok.inj hsame

/-- `{"$not": [{"a": {"$or": [null, {"$gt": null}]}}]}` -/
def mixedNesting : Json :=
  .object [("$not", .array [.object [("a",
    .object [("$or", .array [.null, .object [("$gt", .null)]])])]])]

theorem ofJson_eq_ok_iff_mixedNesting : documentDepth mixedNesting = 5 ∧
    (∃ c, ofJson 5 mixedNesting = .ok c) ∧
    ofJson 4 mixedNesting = .error (.tooDeep 4) := by
  have hdepth : documentDepth mixedNesting = 5 := rfl
  have hmeaning : ∃ c, meaning mixedNesting = .ok c := ⟨_, rfl⟩
  obtain ⟨c, hc⟩ := hmeaning
  refine ⟨hdepth, ⟨c, ?_⟩, ?_⟩
  · exact ((ofJson_eq_ok_iff mixedNesting 5).1 c).mpr ⟨hc, Nat.le_of_eq hdepth⟩
  · exact (ofJson_eq_ok_iff mixedNesting 4).2.1 c hc (by rw [hdepth]; decide)

end Condition

end GraphQuery
