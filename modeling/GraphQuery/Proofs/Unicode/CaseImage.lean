import GraphQuery.Unicode.Lowercase
import GraphQuery.Unicode.Numeric
import Mathlib.Data.List.Chain
import Mathlib.Data.Nat.Bitwise

/-!
# Case images from left to right

The image of a letter under a case mapping starts with a letter, and if it starts with that letter
itself it is that letter alone (`honest_toLower`, `honest_toUpper`). So a text in another case that
goes on as the text itself does is that text, character by character (`Respelled.append_inj`).
-/

namespace GraphQuery.Unicode

/-! ## Ranges as one number -/

/-- The first range is one that ends before the second one starts. -/
def Before (r q : Nat × Nat) : Prop :=
  r.1 ≤ r.2 ∧ r.2 < q.1

instance : DecidableRel Before :=
  fun _ _ => inferInstanceAs (Decidable (_ ∧ _))

instance : IsTrans (Nat × Nat) Before :=
  ⟨fun _ _ _ hrq hqp => ⟨hrq.1, by have := hrq.2; have := hqp.1; have := hqp.2; omega⟩⟩

theorem inRanges_of_mem {n : Nat} {r : Nat × Nat} {ranges : List (Nat × Nat)}
    (hranges : ranges.Pairwise Before) (hr : r ∈ ranges) (hlo : r.1 ≤ n) (hhi : n ≤ r.2) :
    inRanges n ranges := by
  induction ranges with
  | nil => cases hr
  | cons q rest ih =>
    rw [List.pairwise_cons] at hranges
    rw [inRanges]
    rcases List.mem_cons.mp hr with rfl | hrest
    · rw [if_neg (by omega), if_pos hhi]
    · have hbefore := hranges.1 r hrest
      unfold Before at hbefore
      rw [if_neg (by omega), if_neg (by omega)]
      exact ih hranges.2 hrest

/-- The number that has a bit for every number in the ranges. -/
def bits : List (Nat × Nat) → Nat
  | [] => 0
  | r :: rest => ((2 ^ (r.2 + 1 - r.1) - 1) <<< r.1) ||| bits rest

theorem exists_of_testBit_bits {n : Nat} {ranges : List (Nat × Nat)}
    (h : (bits ranges).testBit n) : ∃ r ∈ ranges, r.1 ≤ n ∧ n ≤ r.2 := by
  induction ranges with
  | nil => simp [bits] at h
  | cons r rest ih =>
    rw [bits, Nat.testBit_or, Nat.testBit_shiftLeft, Nat.testBit_two_pow_sub_one] at h
    simp only [Bool.or_eq_true, Bool.and_eq_true, decide_eq_true_eq] at h
    rcases h with ⟨hlo, hhi⟩ | hrest
    · exact ⟨r, by simp, hlo, by omega⟩
    · obtain ⟨q, hq, hn⟩ := ih hrest
      exact ⟨q, by simp [hq], hn⟩

/-- Whether the character with a code point is a letter, read off one bit. -/
def isLetterCode (n : Nat) : Bool :=
  (bits alphabeticRanges).testBit (Char.ofNat n).toNat

theorem pairwise_alphabeticRanges : alphabeticRanges.Pairwise Before :=
  List.isChain_iff_pairwise.mp (by decide +kernel)

theorem isAlphanumeric_of_isLetterCode {n : Nat} (h : isLetterCode n) :
    isAlphanumeric (Char.ofNat n) := by
  obtain ⟨r, hr, hlo, hhi⟩ := exists_of_testBit_bits h
  have halpha : isAlphabetic (Char.ofNat n) :=
    inRanges_of_mem pairwise_alphabeticRanges hr hlo hhi
  rw [isAlphanumeric, halpha, Bool.true_or]

/-! ## Images of one character -/

/-- The image of `c` is not empty, starts with a letter or numeral if `c` is one, and is `c` alone
if it starts with `c`. -/
def Honest (c : Char) (image : List Char) : Prop :=
  ∃ d more, image = d :: more ∧ (isAlphanumeric c → isAlphanumeric d) ∧ (d = c → more = [])

theorem honest_singleton {c d : Char} (h : isAlphanumeric c → isAlphanumeric d) : Honest c [d] :=
  ⟨d, [], rfl, h, fun _ => rfl⟩

theorem Honest.append_eq_cons_iff {c : Char} {image a b : List Char} (h : Honest c image) :
    image ++ b = c :: a ↔ image = [c] ∧ b = a := by
  constructor
  · intro heq
    obtain ⟨d, more, rfl, -, hsame⟩ := h
    obtain ⟨rfl, hrest⟩ := List.cons.inj heq
    obtain rfl := hsame rfl
    exact ⟨rfl, hrest⟩
  · rintro ⟨rfl, rfl⟩
    rfl

theorem exists_shift_of_image? {n m : Nat} {shifts : List Shift}
    (h : Shift.image? n shifts = some m) :
    ∃ s ∈ shifts, ∃ i ∈ List.range (s.last - s.first + 1), i % s.step = 0 ∧ m = s.image + i := by
  induction shifts with
  | nil => cases h
  | cons s rest ih =>
    rw [Shift.image?] at h
    split at h
    · cases h
    · split at h
      · split at h
        · rename_i hstep
          obtain rfl := Option.some.inj h
          exact ⟨s, by simp, n - s.first, List.mem_range.mpr (by omega), hstep, rfl⟩
        · cases h
      · obtain ⟨s', hs', himage⟩ := ih h
        exact ⟨s', by simp [hs'], himage⟩

section
variable {expansions : List (Nat × List Nat)} {shifts : List Shift}

/-- Every expansion starts with another letter than the one expanded. -/
def ExpandsToLetters (expansions : List (Nat × List Nat)) : Prop :=
  ∀ e ∈ expansions, ∃ d ∈ e.2.head?, isLetterCode d ∧ (Char.ofNat d).toNat ≠ e.1

/-- Every shift goes to letters. -/
def ShiftsToLetters (shifts : List Shift) : Prop :=
  ∀ s ∈ shifts, ∀ i ∈ List.range (s.last - s.first + 1), i % s.step = 0 → isLetterCode (s.image + i)

theorem honest_caseImage (hexpansions : ExpandsToLetters expansions)
    (hshifts : ShiftsToLetters shifts) (c : Char) : Honest c (caseImage expansions shifts c) := by
  unfold caseImage
  cases hlookup : expansions.lookup c.toNat with
  | some image =>
    obtain ⟨before, after, hsplit, -⟩ := List.lookup_eq_some_iff.mp hlookup
    obtain ⟨d, hd, hletter, hother⟩ := hexpansions (c.toNat, image) (by simp [hsplit])
    obtain ⟨more, rfl⟩ := List.head?_eq_some_iff.mp hd
    refine ⟨Char.ofNat d, more.map Char.ofNat, rfl, ?_, ?_⟩
    · exact fun _ => isAlphanumeric_of_isLetterCode hletter
    · exact fun hsame => absurd (congrArg Char.toNat hsame) hother
  | none =>
    apply honest_singleton
    intro hc
    cases himage : Shift.image? c.toNat shifts with
    | none => exact hc
    | some m =>
      obtain ⟨s, hs, i, hi, hstep, rfl⟩ := exists_shift_of_image? himage
      exact isAlphanumeric_of_isLetterCode (hshifts s hs i hi hstep)

end

theorem honest_toLower (c : Char) : Honest c (toLower c) := by
  apply honest_caseImage
  · unfold ExpandsToLetters
    decide +kernel
  · unfold ShiftsToLetters
    decide +kernel

theorem honest_toUpper (c : Char) : Honest c (toUpper c) := by
  apply honest_caseImage
  · unfold ExpandsToLetters
    decide +kernel
  · unfold ShiftsToLetters
    decide +kernel

theorem honest_lowerSigma (before after : List Char) : Honest 'Σ' [lowerSigma before after] := by
  apply honest_singleton
  intro _
  unfold lowerSigma
  split
  · decide +kernel
  · decide +kernel

/-! ## Images of a text -/

/-- The second text is an image of the first, character by character. -/
inductive Respelled : List Char → List Char → Prop
  | nil : Respelled [] []
  | cons {c : Char} {image s t : List Char} :
      Honest c image → Respelled s t → Respelled (c :: s) (image ++ t)

namespace Respelled

theorem append {s s' t t' : List Char} (h : Respelled s t) (h' : Respelled s' t') :
    Respelled (s ++ s') (t ++ t') := by
  induction h with
  | nil => exact h'
  | cons himage _ ih =>
    rw [List.append_assoc]
    exact .cons himage ih

theorem flatMap {f : Char → List Char} (hf : ∀ c, Honest c (f c)) (s : List Char) :
    Respelled s (s.flatMap f) := by
  induction s with
  | nil => exact .nil
  | cons c s ih => exact .cons (hf c) ih

theorem lowercaseAfter (before s : List Char) : Respelled s (lowercaseAfter before s) := by
  induction s generalizing before with
  | nil => exact .nil
  | cons c s ih =>
    refine .cons ?_ (ih _)
    split
    · rename_i hc
      rw [hc]
      exact honest_lowerSigma before s
    · exact honest_toLower c

theorem capitalize (s : List Char) : Respelled s (capitalize s) := by
  cases s with
  | nil => exact .nil
  | cons c s => exact .cons (honest_toUpper c) (flatMap honest_toLower s)

theorem eq_nil_iff {s t : List Char} (h : Respelled s t) : t = [] ↔ s = [] := by
  cases h with
  | nil => rfl
  | cons himage _ =>
    obtain ⟨d, more, rfl, -, -⟩ := himage
    simp

/-- Where an image and the text itself go on to the same text, they are the same. -/
theorem append_inj {s t a b : List Char} (h : Respelled s t) (heq : t ++ b = s ++ a) :
    t = s ∧ b = a := by
  induction h with
  | nil => exact ⟨rfl, heq⟩
  | cons himage _ ih =>
    rw [List.append_assoc, List.cons_append, himage.append_eq_cons_iff] at heq
    obtain ⟨rfl, hrest⟩ := heq
    obtain ⟨rfl, rfl⟩ := ih hrest
    exact ⟨rfl, rfl⟩

/-- A text that its letters and numerals alone are respelled as has no other characters. -/
theorem all_isAlphanumeric {t : List Char} (h : Respelled (t.filter isAlphanumeric) t) :
    ∀ c ∈ t, isAlphanumeric c := by
  induction t with
  | nil => simp
  | cons c t ih =>
    generalize hs : (c :: t).filter isAlphanumeric = s at h
    generalize ht : c :: t = whole at h
    cases h with
    | nil => cases ht
    | @cons e image s rest himage hrest =>
      obtain ⟨d, more, rfl, hletter, hsame⟩ := himage
      obtain ⟨rfl, rfl⟩ := List.cons.inj ht
      have he : isAlphanumeric e := List.of_mem_filter (hs ▸ List.mem_cons_self : e ∈ _)
      rw [List.filter_cons_of_pos (hletter he)] at hs
      obtain ⟨rfl, rfl⟩ := List.cons.inj hs
      obtain rfl := hsame rfl
      exact List.forall_mem_cons.mpr ⟨he, ih hrest⟩

end Respelled

end GraphQuery.Unicode
