import GraphQuery.Proofs.Condition.Outline
import GraphQuery.Proofs.Formula.Parser

/-!
# What the text of a condition says

The bracket rule keeps every junction together, but a negation in front of a range takes hold of
the first bound alone. `Outline.reading` is what the text says under the grammar; it agrees with
the value of the condition as long as no range stands directly behind an odd number of negations
(`reading_eq_value`). `render_denotes_value`: the text of a condition without ranges says what the
condition means, at every level.
-/

namespace GraphQuery

namespace Outline

/-- A range, perhaps negated. -/
def isRange : Outline → Bool
  | .range _ => true
  | .not o => o.isRange
  | _ => false

/-- What the text of an outline says behind an odd number of negations, or behind an even one. -/
def reading (ν : Nat → Bool) (negated : Bool) : Outline → Bool
  | .test n => negated ^^ ν n
  | .range n => (negated ^^ ν n) && ν (n + 1)
  | .not o => o.reading ν (!negated)
  | .join k o r => negated ^^ k.apply (o.reading ν false) (r.reading ν false)

/-- Some range stands behind an odd number of negations with no junction in between; `negated`
tells whether the outline itself stands behind an odd number of them. -/
def splitsRange (negated : Bool) : Outline → Bool
  | .test _ => false
  | .range _ => negated
  | .not o => o.splitsRange (!negated)
  | .join _ o r => o.splitsRange false || r.splitsRange false

theorem isRange_splits {o : Outline} (h : o.isRange = true) : ∃ negated, o.splitsRange negated = true := by
  induction o with
  | test n => cases h
  | range n => exact ⟨true, rfl⟩
  | not o ih =>
    obtain ⟨negated, hs⟩ := ih h
    exact ⟨!negated, by rw [splitsRange, Bool.not_not, hs]⟩
  | join k o r _ _ => cases h

theorem reading_eq_value (ν : Nat → Bool) (o : Outline) :
    ∀ negated, o.splitsRange negated = false → o.reading ν negated = (negated ^^ o.value ν) := by
  induction o with
  | test n => intro negated _; rfl
  | range n => intro negated h; cases h; simp [reading, value]
  | not o ih => intro negated h; rw [reading, value, ih _ h]; simp
  | join k o r iho ihr =>
    intro negated h
    rw [splitsRange, Bool.or_eq_false_iff] at h
    rw [reading, value, iho _ h.1, ihr _ h.2, Bool.false_xor, Bool.false_xor]

theorem reading_not (ν : Nat → Bool) {o : Outline} (h : o.isRange = false) :
    ∀ negated, o.reading ν (!negated) = !o.reading ν negated := by
  induction o with
  | test n => intro negated; simp [reading]
  | range n => cases h
  | not o ih => intro negated; exact ih h (!negated)
  | join k o r _ _ => intro negated; simp [reading]

/-- The text of a negated range is a conjunction of its bounds, the first of which takes all of the
negations. -/
theorem tokens_of_isRange {o : Outline} (h : o.isRange = true) :
    ∀ outer, ∃ ts us f g, o.tokens outer = ts ++ .connective .and :: us ∧
      Reads .not ts f ∧ Reads .not us g ∧
      ∀ ν negated, o.reading ν negated = ((negated ^^ f.eval ν) && g.eval ν) := by
  induction o with
  | test n => cases h
  | range n => intro _; exact ⟨[.test n], [.test (n + 1)], _, _, rfl, .test n, .test (n + 1), fun _ _ => rfl⟩
  | not o ih =>
    intro _
    obtain ⟨ts, us, f, g, htok, hts, hus, hval⟩ := ih h .not
    refine ⟨.not :: ts, us, .not f, g, by rw [tokens, htok]; rfl, hts.not, hus, fun ν negated => ?_⟩
    rw [reading, hval, Formula.eval, Bool.not_xor, Bool.xor_not]
  | join k o r _ _ => cases h

theorem reads_range {o : Outline} (h : o.isRange = true) (outer : Precedence) :
    ∃ f, Reads .and (o.tokens outer) f ∧ ∀ ν, f.eval ν = o.reading ν false := by
  obtain ⟨ts, us, f, g, htok, hts, hus, hval⟩ := tokens_of_isRange h outer
  refine ⟨.join .and f g, ?_, fun ν => by rw [hval, Bool.false_xor]; rfl⟩
  rw [htok]
  exact .join (c := .and) hts.of_not hus

/-- **Every outline can be read at its level**, but a range not as the operand of a negation. -/
theorem reads_tokens (o : Outline) : ∀ outer : Precedence,
    o.isRange = false ∨ outer.rank ≤ Precedence.and.rank →
      ∃ f, Reads outer (o.tokens outer) f ∧ ∀ ν, f.eval ν = o.reading ν false := by
  induction o with
  | test n => intro outer _; exact ⟨_, (Reads.test n).of_not, fun ν => (Bool.false_xor _).symm⟩
  | range n =>
    intro outer h
    obtain ⟨f, hf, hv⟩ := reads_range (o := .range n) rfl outer
    exact ⟨f, hf.weaken (h.resolve_left (by simp [isRange])), hv⟩
  | not o ih =>
    intro outer h
    by_cases hr : o.isRange = true
    · obtain ⟨f, hf, hv⟩ := reads_range (o := .not o) hr outer
      exact ⟨f, hf.weaken (h.resolve_left (by simp [isRange, hr])), hv⟩
    · rw [Bool.not_eq_true] at hr
      obtain ⟨f, hf, hv⟩ := ih .not (Or.inl hr)
      refine ⟨.not f, hf.not.of_not, fun ν => ?_⟩
      rw [Formula.eval, hv, reading, ← reading_not ν hr]
  | join k o r iho ihr =>
    intro outer _
    have hk : k.precedence.rank ≤ Precedence.and.rank := by cases k <;> decide
    obtain ⟨f, hf, hfv⟩ := iho k.precedence (Or.inr hk)
    obtain ⟨g, hg, hgv⟩ := ihr k.precedence (Or.inr hk)
    obtain ⟨u, hu, huv⟩ := hf.chain hg
    refine ⟨u, ?_, fun ν => by rw [huv, hfv, hgv, reading, Bool.false_xor]⟩
    rw [tokens]
    split
    · exact (hu.weaken (Nat.zero_le _)).brackets.of_not
    · exact hu.weaken (by omega)

end Outline

theorem Connective.chain_splitsRange (k : Connective) (negated : Bool) (os : List Outline) :
    (k.chain os).elim false (Outline.splitsRange negated) =
      os.any (Outline.splitsRange (negated && decide (os.length < 2))) := by
  induction os generalizing negated with
  | nil => rfl
  | cons o rest ih =>
    rw [chain]
    cases hch : k.chain rest with
    | none => obtain rfl := Connective.chain_eq_none.mp hch; simp
    | some r =>
      have hr := ih false
      rw [hch, Option.elim_some, Bool.false_and] at hr
      have hlen : ¬ (o :: rest).length < 2 := by
        cases rest with
        | nil => cases hch
        | cons _ _ => simp
      simp only [Option.elim_some, Outline.splitsRange, hr, List.any_cons, hlen, decide_false,
        Bool.and_false]

def Comparator.isRange : Comparator → Bool
  | .between .. => true
  | _ => false

namespace Condition

mutual

/-- Some range stands behind an odd number of negations with nothing but groups of one in between;
`negated` tells whether the condition itself stands behind an odd number of them. -/
def splitsRange (negated : Bool) : Condition → Bool
  | .scalar _ => false
  | .compare c => negated && c.isRange
  | .junction _ children => splitsRangeIn (negated && decide ((live children).length < 2)) children
  | .not inner => inner.splitsRange (!negated)

def splitsRangeIn (negated : Bool) : List (String × Condition) → Bool
  | [] => false
  | (_, c) :: rest => c.splitsRange negated || splitsRangeIn negated rest

end

theorem outline_splitsRange (c : Condition) : ∀ negated n,
    (c.outline n).elim false (Outline.splitsRange negated) = c.splitsRange negated := by
  induction c using childInduction (Q := fun children => ∀ negated n,
    (outlines n children).any (Outline.splitsRange negated) = splitsRangeIn negated children) with
  | scalar v => intro _ n; rfl
  | compare k => intro negated n; cases k <;> simp [outline, Comparator.outline, splitsRange,
      Outline.splitsRange, Comparator.isRange]
  | junction k children ih =>
    intro negated n
    rw [outline, splitsRange, Connective.chain_splitsRange, length_live children n, ih]
  | not c ih =>
    intro negated n
    rw [outline, splitsRange, ← ih _ n]
    cases c.outline n <;> rfl
  | nil negated n => rfl
  | cons key c rest ih ihrest negated n =>
    rw [outlines, splitsRangeIn, List.any_append, ihrest, ← ih negated n]
    cases c.outline n <;> simp

theorem splitsRange_of_elementary (c : Condition) (hc : c.All Comparator.IsElementary) :
    ∀ negated, c.splitsRange negated = false := by
  induction c using childInduction (Q := fun children => AllIn Comparator.IsElementary children →
    ∀ negated, splitsRangeIn negated children = false) with
  | scalar v => intro _; rw [splitsRange]
  | compare k =>
    intro negated
    rw [All] at hc
    rw [splitsRange]
    cases k <;> first | exact hc.elim | exact Bool.and_false _
  | junction k children ih => intro negated; rw [All] at hc; rw [splitsRange]; exact ih hc _
  | not c ih => intro negated; rw [All] at hc; rw [splitsRange]; exact ih hc _
  | nil _ negated => rfl
  | cons key c rest ih ihrest hall negated =>
    rw [AllIn] at hall
    rw [splitsRangeIn, ih hall.1, ihrest hall.2]
    rfl

def testText (field : String) (c : Condition) (s : Scope) (i : Nat) : Fragment :=
  (c.tests field s).1.getD i .empty

theorem spell_tokens (c : Condition) (hc : c.All Comparator.Writes) (outer : Precedence)
    (field : String) (s : Scope) :
    spell (c.testText field s) (c.tokens outer) = (c.render outer field s).1 := by
  rw [render_eq_spell c hc (c.testText field s) 0 outer field s (numbers_getD _)]
  rfl

theorem filterMap_tokens (c : Condition) (outer : Precedence) (field : String) (s : Scope) :
    (c.tokens outer).filterMap Token.index? = List.range (c.tests field s).1.length := by
  rw [length_tests, List.range_eq_range', ← outline_indices c 0, tokens]
  cases c.outline 0 with
  | none => rfl
  | some o => exact o.filterMap_tokens outer

/-- **Brackets stand wherever they are needed.** The text of a condition whose tests are single
comparisons consists of the texts of the tests, each once and in order, and of connectives,
negations and brackets. It has one reading, which fits the level at which the condition was
rendered and has the truth value of the condition whatever the tests are worth. -/
theorem render_denotes_value (c : Condition) (hc : c.All Comparator.IsElementary)
    (outer : Precedence) (field : String) (s : Scope)
    (htext : (c.render outer field s).1.isEmpty = false) :
    spell (c.testText field s) (c.tokens outer) = (c.render outer field s).1 ∧
      (c.tokens outer).filterMap Token.index? = List.range (c.tests field s).1.length ∧
      ∃ f, Formula.parse (c.tokens outer) = some f ∧ Reads outer (c.tokens outer) f ∧
        ∀ ν, some (f.eval ν) = c.value ν 0 := by
  have hw : c.All Comparator.Writes := hc.mono (fun _ => Comparator.IsElementary.writes) c
  refine ⟨c.spell_tokens hw outer field s, c.filterMap_tokens outer field s, ?_⟩
  rw [isEmpty_render c hw] at htext
  obtain ⟨o, ho⟩ := exists_outline htext 0
  have hsplit : ∀ negated, o.splitsRange negated = false := by
    intro negated
    have := outline_splitsRange c negated 0
    rw [ho, splitsRange_of_elementary c hc] at this
    exact this
  have hrange : o.isRange = false := by
    rw [← Bool.not_eq_true]
    intro h
    obtain ⟨negated, hs⟩ := Outline.isRange_splits h
    rw [hsplit] at hs
    cases hs
  obtain ⟨f, hf, hv⟩ := o.reads_tokens outer (Or.inl hrange)
  rw [tokens, ho, Option.elim_some]
  refine ⟨f, Formula.parse_of_reads (hf.weaken (Nat.zero_le _)), hf, fun ν => ?_⟩
  rw [hv, o.reading_eq_value ν false (hsplit false), Bool.false_xor, ← outline_value, ho]
  rfl

/-- "(a = $a AND (b = $b OR NOT b IS NULL))", with an empty group in front. -/
def knownOrSame : Condition :=
  .and [("c", .xor []), ("a", .scalar .null),
    ("b", .or [.scalar .null, .or [.not (.compare .isNull)]])]

theorem render_denotes_value_knownOrSame : knownOrSame.All Comparator.IsElementary ∧
    (knownOrSame.render .not "n" ⟨.empty, 1⟩).1.isEmpty = false ∧
    ∃ f, Formula.parse (knownOrSame.tokens .not) = some f ∧
      Reads .not (knownOrSame.tokens .not) f ∧ ∀ ν, some (f.eval ν) = knownOrSame.value ν 0 := by
  have hc : knownOrSame.All Comparator.IsElementary := by
    simp [knownOrSame, Condition.and, Condition.or, Condition.xor, All, AllIn, Comparator.IsElementary]
  have hw := hc.mono (fun _ => Comparator.IsElementary.writes) knownOrSame
  have htext : (knownOrSame.render .not "n" ⟨.empty, 1⟩).1.isEmpty = false := by
    rw [isEmpty_render _ hw]; rfl
  exact ⟨hc, htext, (render_denotes_value knownOrSame hc .not "n" ⟨.empty, 1⟩ htext).2.2⟩

end Condition

end GraphQuery
