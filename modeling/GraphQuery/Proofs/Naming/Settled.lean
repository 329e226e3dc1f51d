import GraphQuery.Proofs.Naming.Placeholder
import GraphQuery.Proofs.Unicode.CaseImage

/-!
# Names that camel case leaves alone

A text is in camel case already if it is `Settled`: letters and numerals only, each in the case
that its place asks for (`camelCase_eq_self_iff`). The camel case of a text need not be. On ASCII
text it is unless two neighbouring words after the first are single letters: they become two
capitals side by side, which are read as one acronym.
-/

namespace GraphQuery.Naming

open Unicode

/-- What follows `c` has a capital at the start of each word and none inside of one. -/
def KeptAfter (c : Char) : List Char → Prop
  | [] => True
  | d :: rest =>
    (if breaksBetween c d rest.head? then toUpper d = [d] else toLower d = [d]) ∧ KeptAfter d rest

/-- Letters and numerals only, each in the case that camel case gives it. -/
def Settled : List Char → Prop
  | [] => True
  | c :: rest => (∀ d ∈ c :: rest, isAlphanumeric d) ∧ toLower c = [c] ∧ KeptAfter c rest

/-! ## Words that stay -/

/-- The first character of the word stays in upper case and the others stay in lower case. -/
def Titled : List Char → Prop
  | [] => True
  | c :: rest => toUpper c = [c] ∧ ∀ d ∈ rest, toLower d = [d]

theorem flatMap_toLower_eq_self_iff {s : List Char} :
    s.flatMap toLower = s ↔ ∀ c ∈ s, toLower c = [c] := by
  induction s with
  | nil => simp
  | cons c s ih =>
    rw [List.flatMap_cons, (honest_toLower c).append_eq_cons_iff, ih, List.forall_mem_cons]

theorem lowercaseAfter_eq_self_iff (before : List Char) {s : List Char} :
    lowercaseAfter before s = s ↔ ∀ c ∈ s, toLower c = [c] := by
  induction s generalizing before with
  | nil => simp [lowercaseAfter]
  | cons c s ih =>
    rw [lowercaseAfter, List.forall_mem_cons]
    by_cases hc : c = 'Σ'
    · have hsigma : [lowerSigma before s] ≠ ['Σ'] := by
        unfold lowerSigma
        split
        · decide
        · decide
      have hlower : toLower 'Σ' ≠ ['Σ'] := by decide +kernel
      rw [hc, if_pos rfl, (honest_lowerSigma before s).append_eq_cons_iff]
      simp [hsigma, hlower]
    · rw [if_neg hc, (honest_toLower c).append_eq_cons_iff, ih]

theorem capitalize_eq_self_iff {w : List Char} : capitalize w = w ↔ Titled w := by
  cases w with
  | nil => simp [capitalize, Titled]
  | cons c w =>
    rw [capitalize, (honest_toUpper c).append_eq_cons_iff, flatMap_toLower_eq_self_iff, Titled]

theorem flatMap_capitalize_eq_flatten_iff {ws : List (List Char)} :
    ws.flatMap capitalize = ws.flatten ↔ ∀ w ∈ ws, Titled w := by
  induction ws with
  | nil => simp
  | cons w ws ih =>
    rw [List.flatMap_cons, List.flatten_cons, List.forall_mem_cons, ← ih, ← capitalize_eq_self_iff]
    constructor
    · exact (Respelled.capitalize w).append_inj
    · rintro ⟨hw, hws⟩
      rw [hw, hws]

/-! ## Texts that stay -/

theorem respelled_flatMap_capitalize (ws : List (List Char)) :
    Respelled ws.flatten (ws.flatMap capitalize) := by
  induction ws with
  | nil => exact .nil
  | cons w ws ih => exact (Respelled.capitalize w).append ih

theorem respelled_camelCase (t : List Char) :
    Respelled (t.filter isAlphanumeric) (camelCase t) := by
  rw [← flatten_words, camelCase]
  cases words t with
  | nil => exact .nil
  | cons first others =>
    exact (Respelled.lowercaseAfter [] first).append (respelled_flatMap_capitalize others)

/-- The words of a text start after its first character just where one ends before. -/
theorem keptAfter_iff {c : Char} {rest : List Char} (hall : ∀ d ∈ c :: rest, isAlphanumeric d) :
    ∃ first others, words (c :: rest) = (c :: first) :: others ∧
      (KeptAfter c rest ↔ (∀ d ∈ first, toLower d = [d]) ∧ ∀ w ∈ others, Titled w) := by
  induction rest generalizing c with
  | nil =>
    rw [List.forall_mem_cons] at hall
    exact ⟨[], [], by simp [words, hall.1, continues], by simp [KeptAfter]⟩
  | cons d rest ih =>
    obtain ⟨hc, hrest⟩ := List.forall_mem_cons.mp hall
    obtain ⟨first, others, hwords, hkept⟩ := ih hrest
    have hd : isAlphanumeric d := hrest d List.mem_cons_self
    have hnext : rest.head?.filter isAlphanumeric = rest.head? := by
      cases rest with
      | nil => rfl
      | cons e rest => simp [hrest e (by simp)]
    have hgoes : continues c (d :: rest) = !breaksBetween c d rest.head? := by
      rw [continues, hnext, hd, Bool.true_and]
    rw [words, if_pos hc, hgoes, KeptAfter, hkept, hwords]
    by_cases hbreak : breaksBetween c d rest.head?
    · refine ⟨[], (d :: first) :: others, by simp [hbreak], ?_⟩
      simp [hbreak, Titled, and_assoc]
    · refine ⟨d :: first, others, by simp [hbreak], ?_⟩
      simp [hbreak, and_assoc]

theorem camelCase_eq_self_iff {t : List Char} : camelCase t = t ↔ Settled t := by
  cases t with
  | nil => simp [camelCase, words, Settled]
  | cons c rest =>
    have hletters : camelCase (c :: rest) = c :: rest → ∀ d ∈ c :: rest, isAlphanumeric d := by
      intro h
      have hrespelled := respelled_camelCase (c :: rest)
      rw [h] at hrespelled
      exact hrespelled.all_isAlphanumeric
    rw [Settled, ← and_iff_right_of_imp hletters]
    refine and_congr_right fun hall => ?_
    obtain ⟨first, others, hwords, hkept⟩ := keptAfter_iff hall
    have hwhole : c :: rest = (c :: first) ++ others.flatten := by
      rw [← List.flatten_cons, ← hwords, flatten_words, List.filter_eq_self.mpr hall]
    have hfirst : (∀ d ∈ c :: first, toLower d = [d]) ↔
        toLower c = [c] ∧ ∀ d ∈ first, toLower d = [d] := List.forall_mem_cons
    rw [hkept, ← and_assoc, ← hfirst, ← lowercaseAfter_eq_self_iff [],
      ← flatMap_capitalize_eq_flatten_iff, camelCase, hwords, hwhole]
    constructor
    · exact (Respelled.lowercaseAfter [] (c :: first)).append_inj
    · rintro ⟨hlower, htitled⟩
      exact congrArg₂ (· ++ ·) hlower htitled

end GraphQuery.Naming
