import GraphQuery.Naming.Words
import Mathlib.Data.List.Forall2

/-!
# Camel case, character by character

Cutting text into words loses letters and numerals no more than it adds any (`flatten_words`). On
ASCII text camel case writes one letter for every letter and the same digit for every digit
(`sameKind_camelCase`).
-/

namespace GraphQuery.Naming

open Unicode

/-! ## Words -/

theorem words_of_not_alphanumeric {c : Char} (hc : ¬ isAlphanumeric c) (rest : List Char) :
    words (c :: rest) = words rest := by
  rw [words, if_neg hc]

section
variable {c : Char} {rest : List Char} (hc : isAlphanumeric c)
include hc

theorem words_of_not_continues (h : ¬ continues c rest) : words (c :: rest) = [c] :: words rest := by
  rw [words, if_pos hc, if_neg h]

theorem exists_words_cons (rest : List Char) :
    ∃ tail others, words (c :: rest) = (c :: tail) :: others := by
  induction rest generalizing c with
  | nil => exact ⟨[], [], words_of_not_continues hc (by simp [continues])⟩
  | cons d rest ih =>
    by_cases hgoes : continues c (d :: rest)
    · obtain ⟨tail, others, hwords⟩ := ih (Bool.and_eq_true_iff.mp hgoes).1
      refine ⟨d :: tail, others, ?_⟩
      rw [words, if_pos hc, if_pos hgoes, hwords]
      rfl
    · exact ⟨[], _, words_of_not_continues hc hgoes⟩

/-- A word that goes on takes in the first word of the text after it. -/
theorem exists_words_of_continues (h : continues c rest) :
    ∃ first others, words rest = first :: others ∧ words (c :: rest) = (c :: first) :: others := by
  cases rest with
  | nil => cases h
  | cons d rest =>
    obtain ⟨tail, others, hwords⟩ := exists_words_cons (Bool.and_eq_true_iff.mp h).1 rest
    refine ⟨d :: tail, others, hwords, ?_⟩
    rw [words, if_pos hc, if_pos h, hwords]
    rfl

end

theorem flatten_words (s : List Char) : (words s).flatten = s.filter isAlphanumeric := by
  induction s with
  | nil => rfl
  | cons c rest ih =>
    by_cases hc : isAlphanumeric c
    · rw [List.filter_cons_of_pos hc, ← ih]
      by_cases hgoes : continues c rest
      · obtain ⟨first, others, hrest, hwords⟩ := exists_words_of_continues hc hgoes
        rw [hwords, hrest, List.flatten_cons, List.flatten_cons, List.cons_append]
      · rw [words_of_not_continues hc hgoes, List.flatten_cons, List.singleton_append]
    · rw [words_of_not_alphanumeric hc, List.filter_cons_of_neg hc, ih]

/-! ## ASCII text -/

def IsAscii (s : List Char) : Prop :=
  ∀ c ∈ s, c.toNat < 128

instance (s : List Char) : Decidable (IsAscii s) :=
  List.decidableBAll (fun c : Char => c.toNat < 128) s

/-- The second character is an ASCII letter or digit, and a digit just if the first one is. -/
def SameKind (c d : Char) : Prop :=
  d.isAlphanum = true ∧ d.isDigit = c.isDigit

theorem ascii_forall {P : Char → Prop} (h : ∀ n < 128, P (Char.ofNat n)) {c : Char}
    (hc : c.toNat < 128) : P c := by
  have hchar := h c.toNat hc
  rwa [Char.ofNat_toNat] at hchar

theorem toNat_lt_of_isDigit {c : Char} (h : c.isDigit) : c.toNat < 128 := by
  simp only [Char.isDigit, Bool.and_eq_true, decide_eq_true_eq] at h
  exact Nat.lt_of_le_of_lt h.2 (by decide)

theorem sameKind_toLower {c : Char} (hc : c.toNat < 128) (ha : isAlphanumeric c) :
    ∃ d, toLower c = [d] ∧ SameKind c d := by
  have hkind : isAlphanumeric c → (toLower c).map (fun d => (d.isAlphanum, d.isDigit)) =
      [(true, c.isDigit)] := by
    apply ascii_forall _ hc
    decide +kernel
  simpa [List.map_eq_singleton_iff, SameKind] using hkind ha

theorem sameKind_toUpper {c : Char} (hc : c.toNat < 128) (ha : isAlphanumeric c) :
    ∃ d, toUpper c = [d] ∧ SameKind c d := by
  have hkind : isAlphanumeric c → (toUpper c).map (fun d => (d.isAlphanum, d.isDigit)) =
      [(true, c.isDigit)] := by
    apply ascii_forall _ hc
    decide +kernel
  simpa [List.map_eq_singleton_iff, SameKind] using hkind ha

theorem forall₂_flatMap {R : Char → Char → Prop} {f : Char → List Char} {s : List Char}
    (h : ∀ c ∈ s, ∃ d, f c = [d] ∧ R c d) : List.Forall₂ R s (s.flatMap f) := by
  induction s with
  | nil => exact .nil
  | cons c s ih =>
    obtain ⟨d, hd, hR⟩ := h c (by simp)
    rw [List.flatMap_cons, hd]
    exact .cons hR (ih fun b hb => h b (by simp [hb]))

theorem lowercase_of_ascii {s : List Char} (h : IsAscii s) : lowercase s = s.flatMap toLower := by
  have key : ∀ before : List Char, lowercaseAfter before s = s.flatMap toLower := by
    induction s with
    | nil => exact fun _ => rfl
    | cons c s ih =>
      intro before
      have hc : c ≠ 'Σ' := by
        rintro rfl
        exact absurd (h 'Σ' (by simp)) (by decide)
      rw [lowercaseAfter, if_neg hc, ih (fun b hb => h b (by simp [hb])), List.flatMap_cons]
  exact key []

section
variable {s : List Char} (hascii : IsAscii s) (hall : ∀ c ∈ s, isAlphanumeric c = true)
include hascii hall

theorem sameKind_lowercase : List.Forall₂ SameKind s (lowercase s) := by
  rw [lowercase_of_ascii hascii]
  exact forall₂_flatMap fun c hc => sameKind_toLower (hascii c hc) (hall c hc)

theorem sameKind_capitalize : List.Forall₂ SameKind s (capitalize s) := by
  cases s with
  | nil => exact .nil
  | cons c s =>
    obtain ⟨d, hd, hkind⟩ := sameKind_toUpper (hascii c (by simp)) (hall c (by simp))
    rw [capitalize, hd]
    refine .cons hkind (forall₂_flatMap fun b hb => ?_)
    exact sameKind_toLower (hascii b (by simp [hb])) (hall b (by simp [hb]))

end

theorem sameKind_flatMap_capitalize {ws : List (List Char)} (hascii : IsAscii ws.flatten)
    (hall : ∀ c ∈ ws.flatten, isAlphanumeric c = true) :
    List.Forall₂ SameKind ws.flatten (ws.flatMap capitalize) := by
  induction ws with
  | nil => exact .nil
  | cons w ws ih =>
    simp only [IsAscii, List.flatten_cons, List.mem_append, or_imp, forall_and] at hascii hall
    rw [List.flatten_cons, List.flatMap_cons]
    exact List.rel_append (sameKind_capitalize hascii.1 hall.1) (ih hascii.2 hall.2)

theorem sameKind_camelCase {s : List Char} (h : IsAscii s) :
    List.Forall₂ SameKind (s.filter isAlphanumeric) (camelCase s) := by
  have hascii : IsAscii (s.filter isAlphanumeric) := fun c hc => h c (List.mem_of_mem_filter hc)
  have hall : ∀ c ∈ s.filter isAlphanumeric, isAlphanumeric c = true := fun c hc =>
    List.of_mem_filter hc
  unfold camelCase
  rw [← flatten_words] at hascii hall ⊢
  cases hw : words s with
  | nil => exact .nil
  | cons first others =>
    rw [hw] at hascii hall
    simp only [IsAscii, List.flatten_cons, List.mem_append, or_imp, forall_and] at hascii hall
    exact List.rel_append (sameKind_lowercase hascii.1 hall.1)
      (sameKind_flatMap_capitalize hascii.2 hall.2)

end GraphQuery.Naming
