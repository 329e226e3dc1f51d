import GraphQuery.Proofs.Condition.Level
import GraphQuery.Proofs.Document.Restated
import GraphQuery.Proofs.Fragment.Resolution

/-!
# Tests against another field

A document may test a field against another one. Such a test stores nothing, and the reference is
written as it was given on the right of the comparison (`ofJson_reference`). One operator writes
more: `$iregex` puts its mark in front of the reference as it does with a pattern.
-/

namespace GraphQuery

namespace Comparator

/-- `{"$field": r}` -/
def reference (r : String) : Json :=
  .object [("$field", .string r)]

/-- The operators that compare a field with one operand. -/
def comparisons : List (String × Operator) :=
  [("$eq", .equals), ("$gt", .greaterThan), ("$gte", .greaterEqualTo), ("$lt", .lessThan),
   ("$lte", .lessEqualTo), ("$startsWith", .startsWith), ("$endsWith", .endsWith),
   ("$contains", .contains), ("$in", .inArray), ("$regex", .matchesPattern),
   ("$iregex", .matchesPattern)]

/-- What an operator writes for a reference. -/
def written (operator r : String) : String :=
  if operator = "$iregex" then "(?i)" ++ r else r

/-- What a value of `$between` is that has two references for its bounds, and whether these are
included. -/
inductive ReferenceBounds (lower upper : String) : Json → Bool → Bool → Prop
  | array : ReferenceBounds lower upper (.array [reference lower, reference upper]) true true
  | object {members : List (String × Json)} {lowerFlag upperFlag : Option Bool} :
      members.lookup "lower" = some (reference lower) →
      members.lookup "upper" = some (reference upper) →
      boundFlag members "lowerInclusive" = .ok lowerFlag →
      boundFlag members "upperInclusive" = .ok upperFlag →
      ReferenceBounds lower upper (.object members) (lowerFlag.getD true)
        (upperFlag.getD (lowerFlag.getD true))

/-! ## What operators make of references -/

theorem ofOperator_reference {operator : String} {comparison : Operator}
    (h : (operator, comparison) ∈ comparisons) (r : String) :
    ofOperator operator (reference r) =
      .ok (.binary comparison (.reference (written operator r))) := by
  simp only [comparisons, List.mem_cons, List.not_mem_nil, or_false, Prod.mk.injEq] at h
  rcases h with ⟨rfl, rfl⟩ | ⟨rfl, rfl⟩ | ⟨rfl, rfl⟩ | ⟨rfl, rfl⟩ | ⟨rfl, rfl⟩ | ⟨rfl, rfl⟩ |
    ⟨rfl, rfl⟩ | ⟨rfl, rfl⟩ | ⟨rfl, rfl⟩ | ⟨rfl, rfl⟩ | ⟨rfl, rfl⟩ <;> rfl

theorem betweenOfJson_reference {lower upper : String} {v : Json} {lowerInclusive upperInclusive : Bool}
    (h : ReferenceBounds lower upper v lowerInclusive upperInclusive) :
    betweenOfJson v =
      .ok (.between (.reference lower) (.reference upper) lowerInclusive upperInclusive) := by
  cases h with
  | array => rfl
  | object hlower hupper hlowerFlag hupperFlag =>
    simp only [betweenOfJson, hlower, hupper, hlowerFlag, hupperFlag]
    rfl

theorem render_between_reference (lower upper : String) (lowerInclusive upperInclusive : Bool)
    (field : String) (s : Scope) :
    (between (.reference lower) (.reference upper) lowerInclusive upperInclusive).render field s =
      (.text (field ++ (if lowerInclusive then " >= " else " > ") ++ lower ++ " AND " ++ field ++
        (if upperInclusive then " <= " else " < ") ++ upper), s) := by
  simp only [render, Operand.render, Fragment.text_append_text, String.append_assoc]

theorem render_binary_reference (operator : Operator) (r field : String) (s : Scope) :
    (binary operator (.reference r)).render field s =
      (.text (field ++ " " ++ operator.symbol ++ " " ++ r), s) := by
  simp only [render, Operand.render, Fragment.text_append_text]

end Comparator

namespace Condition

open Comparator

/-- A condition on a field that is written as a text and stores nothing. -/
def WritesOnly (c : Condition) (test : String → String) : Prop :=
  ∀ outer field, (∀ s, c.render outer field s = (.text (test field), s)) ∧
    c.compile outer field = .ok ⟨test field, []⟩

/-- The document of one field under one operator. -/
def fieldTest (f operator : String) (v : Json) : Json :=
  .object [(f, .object [(operator, v)])]

variable {limit : Nat} {f : String}

/-- The operators whose operands hold conditions again. -/
def nesting : List String :=
  ["$and", "$or", "$xor", "$not"]

theorem classifyOperator_test {operator : String} (h : operator ∉ nesting) (depth : Nat) (v : Json) :
    classifyOperator limit depth operator v = (ofOperator operator v).map Condition.compare := by
  simp only [nesting, List.mem_cons, List.not_mem_nil, or_false, not_or] at h
  obtain ⟨hand, hor, hxor, hnot⟩ := h
  rw [classifyOperator]
  all_goals first | assumption | (intro _ h; contradiction)

theorem ofJson_fieldTest (hlimit : 2 ≤ limit) (hf : isOperatorKey f = false) {operator : String}
    {v : Json} {comparator : Comparator} (hop : isOperatorKey operator) (htest : operator ∉ nesting)
    (h : ofOperator operator v = .ok comparator) :
    ofJson limit (fieldTest f operator v) = .ok (.junction .and [(f, .compare comparator)]) := by
  have hinner : classify limit 2 (.object [(operator, v)]) = .ok (.compare comparator) := by
    rw [classify_operator hop, if_neg (by omega), classifyOperator_test htest, h]
    rfl
  unfold ofJson fieldTest
  rw [classify_plain (by simpa using hf), if_neg (by omega), classifyFields, hinner]
  rfl

theorem writesOnly_lone {comparator : Comparator} {text : String → String}
    (h : ∀ field s, comparator.render field s = (.text (text field), s)) (f : String) :
    WritesOnly (.junction .and [(f, .compare comparator)]) fun field => text (joinField field f) := by
  intro outer field
  have hrender : ∀ s, (Condition.junction .and [(f, .compare comparator)]).render outer field s =
      (.text (text (joinField field f)), s) := by
    intro s
    rw [render_junction_of_lone rfl]
    exact h _ s
  refine ⟨hrender, ?_⟩
  simp only [compile, Query.ofFragment, hrender, Fragment.finalize_text]
  rfl

/-- **References are not stored.** A test of a field against another one is accepted. What is on
the right of it is the reference as it was given, with the mark in front for `$iregex`; for a range
both references are written so, with the signs that the value asks for. No parameter is stored. -/
theorem ofJson_reference (hlimit : 2 ≤ limit) (hf : isOperatorKey f = false) (r r' : String) :
    (∀ operator comparison, (operator, comparison) ∈ comparisons →
      ∃ c, ofJson limit (fieldTest f operator (reference r)) = .ok c ∧
        c.WritesOnly fun field =>
          joinField field f ++ " " ++ comparison.symbol ++ " " ++ written operator r) ∧
    ∀ v lowerInclusive upperInclusive, ReferenceBounds r r' v lowerInclusive upperInclusive →
      ∃ c, ofJson limit (fieldTest f "$between" v) = .ok c ∧
        c.WritesOnly fun field =>
          joinField field f ++ (if lowerInclusive then " >= " else " > ") ++ r ++ " AND " ++
            joinField field f ++ (if upperInclusive then " <= " else " < ") ++ r' := by
  constructor
  · intro operator comparison hmem
    have hentries : ∀ entry ∈ comparisons, isOperatorKey entry.1 ∧ entry.1 ∉ nesting := by decide
    obtain ⟨hop, htest⟩ := hentries _ hmem
    refine ⟨_, ofJson_fieldTest hlimit hf hop htest (ofOperator_reference hmem r), ?_⟩
    exact writesOnly_lone (render_binary_reference comparison (written operator r)) f
  · intro v lowerInclusive upperInclusive hbounds
    have hbetween : ofOperator "$between" v =
        .ok (.between (.reference r) (.reference r') lowerInclusive upperInclusive) := by
      rw [← betweenOfJson_reference hbounds]
      rfl
    refine ⟨_, ofJson_fieldTest hlimit hf (by decide) (by decide) hbetween, ?_⟩
    exact writesOnly_lone (render_between_reference r r' lowerInclusive upperInclusive) f

/-- `{"lower": {"$field": "m.from"}, "upper": {"$field": "m.to"}, "lowerInclusive": false}` -/
def openRange : Json :=
  .object [("lower", reference "m.from"), ("upper", reference "m.to"),
    ("lowerInclusive", .bool false)]

theorem ofJson_reference_openRange :
    (∃ c, ofJson defaultMaxDepth (fieldTest "age" "$between" openRange) = .ok c ∧
      c.compile .not "n" = .ok ⟨"n.age > m.from AND n.age < m.to", []⟩) ∧
    ∃ c, ofJson defaultMaxDepth (fieldTest "age" "$in" (reference "m.ages")) = .ok c ∧
      c.compile .none "" = .ok ⟨"age IN m.ages", []⟩ := by
  have hlimit : 2 ≤ defaultMaxDepth := by decide
  have hage : isOperatorKey "age" = false := by decide
  have hbounds : ReferenceBounds "m.from" "m.to" openRange ((some false).getD true)
      (none.getD ((some false).getD true)) := .object rfl rfl rfl rfl
  obtain ⟨-, hrange⟩ := ofJson_reference hlimit hage "m.from" "m.to"
  obtain ⟨hsingle, -⟩ := ofJson_reference hlimit hage "m.ages" ""
  obtain ⟨c, hc, hwrites⟩ := hrange openRange _ _ hbounds
  obtain ⟨d, hd, hwrites'⟩ := hsingle "$in" .inArray (by decide)
  exact ⟨⟨c, hc, (hwrites .not "n").2⟩, d, hd, (hwrites' .none "").2⟩

/-- The mark for either case stands in front of a field that it is no part of. -/
theorem iregex_marks_reference :
    ∃ c, ofJson defaultMaxDepth (fieldTest "name" "$iregex" (reference "n.other")) = .ok c ∧
      c.compile .none "" = .ok ⟨"name =~ (?i)n.other", []⟩ ∧
      c.compile .none "" ≠ .ok ⟨"name =~ n.other", []⟩ := by
  refine ⟨.and [("name", .compare (.binary .matchesPattern (.reference "(?i)n.other")))], rfl, rfl,
    fun hsame => ?_⟩
  exact absurd (congrArg Query.script (Except.ok.inj hsame)) (by decide)

end Condition

end GraphQuery
