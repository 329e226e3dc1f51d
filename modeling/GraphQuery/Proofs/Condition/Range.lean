import GraphQuery.Proofs.Condition.Reading
import GraphQuery.Query

/-!
# Ranges behind negations

The two bounds of a range are written without brackets, so a negation in front of them reads as a
negation of the first bound. `denotes_value_iff`: the text says what the condition means just as
long as no range stands behind an odd number of negations with nothing but groups of one in
between; an even number of them does no harm.
-/

namespace GraphQuery

namespace Connective

/-- The value that a connective ignores. -/
def neutral : Connective → Bool
  | .or => false
  | .xor => false
  | .and => true

@[simp] theorem apply_neutral (k : Connective) (x : Bool) : k.apply x k.neutral = x := by
  cases k <;> cases x <;> rfl

@[simp] theorem neutral_apply (k : Connective) (x : Bool) : k.apply k.neutral x = x := by
  cases k <;> cases x <;> rfl

end Connective

namespace Outline

theorem value_congr {ν μ : Nat → Bool} {o : Outline} (h : ∀ i ∈ o.indices, ν i = μ i) :
    o.value ν = o.value μ := by
  induction o with
  | test n => exact h n (by simp [indices])
  | range n => rw [value, value, h n (by simp [indices]), h (n + 1) (by simp [indices])]
  | not o ih => rw [value, value, ih h]
  | join k o r iho ihr =>
    rw [value, value, iho fun i hi => h i (List.mem_append_left _ hi),
      ihr fun i hi => h i (List.mem_append_right _ hi)]

theorem reading_congr {ν μ : Nat → Bool} {o : Outline} (h : ∀ i ∈ o.indices, ν i = μ i) :
    ∀ negated, o.reading ν negated = o.reading μ negated := by
  induction o with
  | test n => intro _; rw [reading, reading, h n (by simp [indices])]
  | range n =>
    intro _
    rw [reading, reading, h n (by simp [indices]), h (n + 1) (by simp [indices])]
  | not o ih => intro negated; exact ih h _
  | join k o r iho ihr =>
    intro _
    rw [reading, reading, iho fun i hi => h i (List.mem_append_left _ hi),
      ihr fun i hi => h i (List.mem_append_right _ hi)]

/-- Two parts of one condition have no test in common, so their truth values are independent. -/
theorem exists_both {o r : Outline} (hn : (o.indices ++ r.indices).Nodup) (ν μ : Nat → Bool) :
    ∃ κ, (∀ negated, o.reading κ negated = o.reading ν negated) ∧ o.value κ = o.value ν ∧
      (∀ negated, r.reading κ negated = r.reading μ negated) ∧ r.value κ = r.value μ := by
  let κ := fun i => if i ∈ o.indices then ν i else μ i
  have ho : ∀ i ∈ o.indices, κ i = ν i := fun i hi => if_pos hi
  have hr : ∀ i ∈ r.indices, κ i = μ i := fun i hi =>
    if_neg fun h => (List.nodup_append.mp hn).2.2 i h i hi rfl
  exact ⟨κ, reading_congr ho, value_congr ho, reading_congr hr, value_congr hr⟩

/-- Every condition can be given either truth value in such a way that its text has it too. -/
theorem exists_settled {o : Outline} (hn : o.indices.Nodup) :
    ∀ v negated, ∃ ν, o.value ν = v ∧ o.reading ν negated = (negated ^^ v) := by
  induction o with
  | test n => intro v negated; exact ⟨fun _ => v, rfl, rfl⟩
  | range n =>
    intro v negated
    refine ⟨fun i => if i = n then v else true, ?_, ?_⟩ <;> simp [value, reading]
  | not o ih =>
    intro v negated
    obtain ⟨ν, hv, hr⟩ := ih hn (!v) (!negated)
    exact ⟨ν, by rw [value, hv, Bool.not_not], by rw [reading, hr]; simp⟩
  | join k o r iho ihr =>
    intro v negated
    obtain ⟨ν, hov, hor⟩ := iho (List.nodup_append.mp hn).1 v false
    obtain ⟨μ, hrv, hrr⟩ := ihr (List.nodup_append.mp hn).2.1 k.neutral false
    obtain ⟨κ, h₁, h₂, h₃, h₄⟩ := exists_both hn ν μ
    refine ⟨κ, ?_, ?_⟩
    · rw [value, h₂, h₄, hov, hrv, Connective.apply_neutral]
    · rw [reading, h₁, h₃, hor, hrr, Bool.false_xor, Bool.false_xor, Connective.apply_neutral]

/-- A range behind an odd number of negations shows: some assignment makes text and condition
differ. -/
theorem exists_reading_ne {o : Outline} (hn : o.indices.Nodup) :
    ∀ negated, o.splitsRange negated = true →
      ∃ ν, o.reading ν negated ≠ (negated ^^ o.value ν) := by
  induction o with
  | test n => intro negated h; cases h
  | range n => intro negated h; cases h; exact ⟨fun _ => false, by simp [reading, value]⟩
  | not o ih =>
    intro negated h
    obtain ⟨ν, hν⟩ := ih hn _ h
    exact ⟨ν, by rw [reading, value]; simpa using hν⟩
  | join k o r iho ihr =>
    intro negated h
    obtain ⟨hno, hnr, -⟩ := List.nodup_append.mp hn
    -- the part with the range decides, the other one is made neutral
    rcases Bool.or_eq_true_iff.mp h with ho | hr
    · obtain ⟨ν, hν⟩ := iho hno _ ho
      obtain ⟨μ, hv, hrd⟩ := exists_settled hnr k.neutral false
      obtain ⟨κ, h₁, h₂, h₃, h₄⟩ := exists_both hn ν μ
      refine ⟨κ, ?_⟩
      rw [reading, value, h₁, h₂, h₃, h₄, hv, hrd, Bool.false_xor, Connective.apply_neutral,
        Connective.apply_neutral]
      simpa using hν
    · obtain ⟨ν, hν⟩ := ihr hnr _ hr
      obtain ⟨μ, hv, hrd⟩ := exists_settled hno k.neutral false
      obtain ⟨κ, h₁, h₂, h₃, h₄⟩ := exists_both hn μ ν
      refine ⟨κ, ?_⟩
      rw [reading, value, h₁, h₂, h₃, h₄, hv, hrd, Bool.false_xor, Connective.neutral_apply,
        Connective.neutral_apply]
      simpa using hν

theorem reading_eq_value_iff {o : Outline} (hn : o.indices.Nodup) :
    (∀ ν, o.reading ν false = o.value ν) ↔ o.splitsRange false = false := by
  constructor
  · intro h
    rw [← Bool.not_eq_true]
    intro hs
    obtain ⟨ν, hν⟩ := exists_reading_ne hn false hs
    exact hν (by rw [h, Bool.false_xor])
  · intro h ν
    rw [reading_eq_value ν o false h, Bool.false_xor]

end Outline

namespace Condition

theorem exists_parse {o : Outline} (outer : Precedence) :
    ∃ f, Formula.parse (o.tokens outer) = some f ∧ ∀ ν, f.eval ν = o.reading ν false := by
  by_cases hr : o.isRange = true
  · obtain ⟨f, hf, hv⟩ := Outline.reads_range hr outer
    exact ⟨f, Formula.parse_of_reads (hf.weaken (Nat.zero_le _)), hv⟩
  · rw [Bool.not_eq_true] at hr
    obtain ⟨f, hf, hv⟩ := o.reads_tokens outer (Or.inl hr)
    exact ⟨f, Formula.parse_of_reads (hf.weaken (Nat.zero_le _)), hv⟩

/-- **A range is one unit unless a negation splits it.** The text of a condition consists of the
texts of its single comparisons, two for each range, and of connectives, negations and brackets. It
always has a reading. That reading is worth what the condition is worth, whatever the comparisons
are worth, if and only if no range stands behind an odd number of negations with nothing but groups
of one in between. -/
theorem denotes_value_iff (c : Condition) (hc : c.All Comparator.Writes) (hne : c.isEmpty = false)
    (outer : Precedence) (field : String) (s : Scope) :
    spell (c.testText field s) (c.tokens outer) = (c.render outer field s).1 ∧
      (c.tokens outer).filterMap Token.index? = List.range (c.tests field s).1.length ∧
      ∃ f, Formula.parse (c.tokens outer) = some f ∧
        ((∀ ν, some (f.eval ν) = c.value ν 0) ↔ c.splitsRange false = false) := by
  refine ⟨c.spell_tokens hc outer field s, c.filterMap_tokens outer field s, ?_⟩
  obtain ⟨o, ho⟩ := exists_outline hne 0
  obtain ⟨f, hf, hv⟩ := exists_parse (o := o) outer
  have hn : o.indices.Nodup := by
    have hind := outline_indices c 0
    rw [ho, Option.elim_some] at hind
    rw [hind]
    exact List.nodup_range'
  have hsplit := outline_splitsRange c false 0
  rw [ho, Option.elim_some] at hsplit
  rw [tokens, ho, Option.elim_some, ← hsplit, ← Outline.reading_eq_value_iff hn]
  refine ⟨f, hf, forall_congr' fun ν => ?_⟩
  rw [hv, ← outline_value, ho, Option.map_some, Option.some_inj]

/-- Not from 18 to 65 years old. -/
def ageOutside : Condition :=
  .not (.and [("age", .compare (.between (.value (.number (.int 18))) (.value (.number (.int 65)))
    true true))])

theorem denotes_value_iff_ageOutside : ageOutside.All Comparator.Writes ∧
    ageOutside.isEmpty = false ∧ ageOutside.splitsRange false = true ∧
    ∃ f, Formula.parse (ageOutside.tokens .none) = some f ∧
      ¬ ∀ ν, some (f.eval ν) = ageOutside.value ν 0 := by
  have hc : ageOutside.All Comparator.Writes := by
    simp [ageOutside, Condition.and, All, AllIn, Comparator.Writes]
  have hs : ageOutside.splitsRange false = true := rfl
  obtain ⟨-, -, f, hf, hiff⟩ := denotes_value_iff ageOutside hc rfl .none "" (.fresh 1)
  exact ⟨hc, rfl, hs, f, hf, fun h => by rw [hiff.mp h] at hs; cases hs⟩

theorem ageOutside_misses_below :
    (∃ q, ageOutside.compile .none "" = .ok q ∧
      q.script = "NOT age >= $lowerAge AND age <= $upperAge") ∧
    Formula.parse (ageOutside.tokens .none) = some (.join .and (.not (.test 0)) (.test 1)) ∧
    (Formula.join .and (.not (.test 0)) (.test 1)).eval (fun _ => false) = false ∧
    ageOutside.value (fun _ => false) 0 = some true :=
  ⟨⟨_, rfl, by decide +kernel⟩, rfl, rfl, rfl⟩

end Condition

end GraphQuery
