import GraphQuery.Proofs.Naming.Camel

/-!
# Where words end

Cutting a text into words keeps all its letters and numerals. A word has one kind of characters, apart
from a capital before small letters (`isWord_of_mem_words`), and it ends just where the kinds of its
last character and of what follows ask for it: the number of the word goes up there and nowhere else
in a run (`words_boundaries`).
-/

namespace GraphQuery.Naming

open Unicode

/-- The characters between which a word ends, if the text goes on with `rest` after them: a small
letter before a capital, a numeral beside a letter, or the last two capitals before a small letter. -/
def EndsBetween (c d : Char) (rest : List Char) : Prop :=
  (Kind.of c = .lower ∧ Kind.of d = .upper) ∨
    (Kind.of c = .digit ∧ Kind.of d ≠ .digit) ∨ (Kind.of c ≠ .digit ∧ Kind.of d = .digit) ∨
    (Kind.of c = .upper ∧ Kind.of d = .upper ∧
      ∃ e more, rest = e :: more ∧ isAlphanumeric e ∧ Kind.of e = .lower)

theorem breaksBetween_iff {c d : Char} {rest : List Char} :
    breaksBetween c d (rest.head?.filter isAlphanumeric) ↔ EndsBetween c d rest := by
  unfold breaksBetween EndsBetween
  cases hc : Kind.of c with
  | lower => cases hd : Kind.of d <;> simp
  | digit => cases hd : Kind.of d <;> simp
  | upper =>
    cases hd : Kind.of d with
    | lower => simp
    | digit => simp
    | upper => cases rest <;> simp [Option.any_filter, and_comm]

variable {c d : Char} {s rest : List Char}

theorem continues_cons_iff (hd : isAlphanumeric d) :
    continues c (d :: rest) ↔ ¬ EndsBetween c d rest := by
  rw [← breaksBetween_iff, continues, hd]
  simp

/-! ## What a word is made of -/

/-- The characters are all of one kind. -/
def OneKind (k : Kind) (w : List Char) : Prop :=
  ∀ c ∈ w, Kind.of c = k

inductive IsWord : List Char → Prop
  | numerals {w : List Char} : w ≠ [] → OneKind .digit w → IsWord w
  | capitals {w : List Char} : w ≠ [] → OneKind .upper w → IsWord w
  | small {w : List Char} : w ≠ [] → OneKind .lower w → IsWord w
  | capitalised {c : Char} {w : List Char} : Kind.of c = .upper → w ≠ [] → OneKind .lower w →
      IsWord (c :: w)

theorem isWord_singleton (c : Char) : IsWord [c] := by
  cases hc : Kind.of c with
  | upper => exact .capitals (by simp) (by simpa [OneKind] using hc)
  | lower => exact .small (by simp) (by simpa [OneKind] using hc)
  | digit => exact .numerals (by simp) (by simpa [OneKind] using hc)

theorem oneKind_cons {k : Kind} {w : List Char} :
    OneKind k (c :: w) ↔ Kind.of c = k ∧ OneKind k w :=
  List.forall_mem_cons

/-- A word that does not end after its first character starts like the rest of the text. -/
theorem exists_of_words_eq {e : Char} {tail : List Char} {others : List (List Char)}
    (hd : isAlphanumeric d) (h : words (d :: rest) = (d :: e :: tail) :: others) :
    ∃ more, rest = e :: more ∧ isAlphanumeric e := by
  by_cases hgoes : continues d rest
  · obtain ⟨first, others', hrest, hwords⟩ := exists_words_of_continues hd hgoes
    rw [h] at hwords
    obtain ⟨hfirst, -⟩ := List.cons.inj hwords
    obtain ⟨-, rfl⟩ := List.cons.inj hfirst
    cases rest with
    | nil => cases hgoes
    | cons a more =>
      have ha : isAlphanumeric a := (Bool.and_eq_true_iff.mp hgoes).1
      obtain ⟨tail', others'', hcons⟩ := exists_words_cons ha more
      rw [hrest] at hcons
      obtain ⟨rfl, -⟩ := List.cons.inj (List.cons.inj hcons).1
      exact ⟨more, rfl, ha⟩
  · rw [words_of_not_continues hd hgoes] at h
    cases h

theorem isWord_cons {tail : List Char} {others : List (List Char)} (hd : isAlphanumeric d)
    (hwords : words (d :: rest) = (d :: tail) :: others) (hends : ¬ EndsBetween c d rest)
    (h : IsWord (d :: tail)) : IsWord (c :: d :: tail) := by
  simp only [EndsBetween, not_or, not_and, not_exists, ne_eq, not_not] at hends
  obtain ⟨hcapital, hnumeral, hletter, hacronym⟩ := hends
  cases h with
  | numerals hne hall =>
    have hc : Kind.of c = .digit := by
      refine Classical.byContradiction fun hc => ?_
      exact hletter hc (oneKind_cons.mp hall).1
    exact .numerals (by simp) (oneKind_cons.mpr ⟨hc, hall⟩)
  | capitals hne hall =>
    have hdkind := (oneKind_cons.mp hall).1
    cases hc : Kind.of c with
    | upper => exact .capitals (by simp) (oneKind_cons.mpr ⟨hc, hall⟩)
    | lower => exact absurd hdkind (hcapital hc)
    | digit => cases hdkind.symm.trans (hnumeral hc)
  | small hne hall =>
    have hdkind := (oneKind_cons.mp hall).1
    cases hc : Kind.of c with
    | upper => exact .capitalised hc hne hall
    | lower => exact .small (by simp) (oneKind_cons.mpr ⟨hc, hall⟩)
    | digit => cases hdkind.symm.trans (hnumeral hc)
  | capitalised hdkind hne hall =>
    -- the word would have ended before the last of several capitals
    exfalso
    obtain ⟨e, more', rfl⟩ := List.exists_cons_of_ne_nil hne
    obtain ⟨more, hrest, he⟩ := exists_of_words_eq hd hwords
    cases hc : Kind.of c with
    | upper => exact hacronym hc hdkind e more hrest he (oneKind_cons.mp hall).1
    | lower => exact hcapital hc hdkind
    | digit => cases hdkind.symm.trans (hnumeral hc)

theorem isWord_of_mem_words {w : List Char} (h : w ∈ words s) : IsWord w := by
  induction s generalizing w with
  | nil => cases h
  | cons c rest ih =>
    by_cases hc : isAlphanumeric c
    · by_cases hgoes : continues c rest
      · obtain ⟨first, others, hrest, hwords⟩ := exists_words_of_continues hc hgoes
        rw [hwords] at h
        rw [hrest] at ih
        rcases List.mem_cons.mp h with rfl | hothers
        · cases rest with
          | nil => cases hgoes
          | cons d rest =>
            have hd : isAlphanumeric d := (Bool.and_eq_true_iff.mp hgoes).1
            obtain ⟨tail, others', hcons⟩ := exists_words_cons hd rest
            rw [hrest] at hcons
            obtain ⟨rfl, rfl⟩ := List.cons.inj hcons
            exact isWord_cons hd hrest ((continues_cons_iff hd).mp hgoes) (ih List.mem_cons_self)
        · exact ih (List.mem_cons_of_mem _ hothers)
      · rw [words_of_not_continues hc hgoes] at h
        rcases List.mem_cons.mp h with rfl | hrest
        · exact isWord_singleton c
        · exact ih hrest
    · rw [words_of_not_alphanumeric hc] at h
      exact ih h

/-! ## Which word a character is in -/

/-- The number of the word that has the `n`-th character of all words. -/
def wordAt : List (List Char) → Nat → Option Nat
  | [], _ => none
  | w :: ws, n => if n < w.length then some 0 else (wordAt ws (n - w.length)).map (· + 1)

theorem wordAt_cons_zero (tail : List Char) (ws : List (List Char)) :
    wordAt ((c :: tail) :: ws) 0 = some 0 := by
  simp [wordAt]

theorem wordAt_cons_succ (w : List Char) (ws : List (List Char)) (n : Nat) :
    wordAt ((c :: w) :: ws) (n + 1) = wordAt (w :: ws) n := by
  simp [wordAt]

theorem wordAt_singleton_succ (ws : List (List Char)) (n : Nat) :
    wordAt ([c] :: ws) (n + 1) = (wordAt ws n).map (· + 1) := by
  simp [wordAt]

/-- Text in front moves the numbers of the words after it, all by the same. -/
theorem exists_wordAt_append (before s : List Char) : ∃ k, ∀ n,
    wordAt (words (before ++ s)) ((before.filter isAlphanumeric).length + n) =
      (wordAt (words s) n).map (· + k) := by
  induction before with
  | nil => exact ⟨0, by simp⟩
  | cons c before ih =>
    obtain ⟨k, hk⟩ := ih
    rw [List.cons_append]
    by_cases hc : isAlphanumeric c
    · rw [List.filter_cons_of_pos hc, List.length_cons]
      by_cases hgoes : continues c (before ++ s)
      · obtain ⟨first, others, hrest, hwords⟩ := exists_words_of_continues hc hgoes
        refine ⟨k, fun n => ?_⟩
        rw [hwords, Nat.add_right_comm, wordAt_cons_succ, ← hrest, hk]
      · refine ⟨k + 1, fun n => ?_⟩
        rw [words_of_not_continues hc hgoes, Nat.add_right_comm, wordAt_singleton_succ, hk,
          Option.map_map]
        rfl
    · rw [List.filter_cons_of_neg hc, words_of_not_alphanumeric hc]
      exact ⟨k, hk⟩

theorem wordAt_words_zero (hc : isAlphanumeric c) : wordAt (words (c :: rest)) 0 = some 0 := by
  obtain ⟨tail, others, hwords⟩ := exists_words_cons hc rest
  rw [hwords, wordAt_cons_zero]

theorem wordAt_words_one (hc : isAlphanumeric c) (hd : isAlphanumeric d) :
    ∃ j, wordAt (words (c :: d :: rest)) 1 = some j ∧ (0 ≠ j ↔ EndsBetween c d rest) := by
  by_cases hgoes : continues c (d :: rest)
  · obtain ⟨tail, others, hcons⟩ := exists_words_cons hd rest
    obtain ⟨first, others', hrest, hwords⟩ := exists_words_of_continues hc hgoes
    rw [hcons] at hrest
    obtain ⟨rfl, rfl⟩ := List.cons.inj hrest
    refine ⟨0, by rw [hwords, wordAt_cons_succ, wordAt_cons_zero], ?_⟩
    simpa using (continues_cons_iff hd).mp hgoes
  · refine ⟨1, ?_, ?_⟩
    · rw [words_of_not_continues hc hgoes, wordAt_singleton_succ, wordAt_words_zero hd]
      rfl
    · rw [continues_cons_iff hd, not_not] at hgoes
      simpa using hgoes

theorem words_of_gap {gap : List Char} (hgap : ∀ a ∈ gap, ¬ isAlphanumeric a) (s : List Char) :
    words (gap ++ s) = words s := by
  induction gap with
  | nil => rfl
  | cons a gap ih =>
    rw [List.forall_mem_cons] at hgap
    rw [List.cons_append, words_of_not_alphanumeric hgap.1, ih hgap.2]

theorem wordAt_words_of_gap {gap : List Char} (hc : isAlphanumeric c) (hd : isAlphanumeric d)
    (hne : gap ≠ []) (hgap : ∀ a ∈ gap, ¬ isAlphanumeric a) :
    wordAt (words (c :: (gap ++ d :: rest))) 1 = some 1 := by
  have hends : ¬ continues c (gap ++ d :: rest) := by
    obtain ⟨a, gap, rfl⟩ := List.exists_cons_of_ne_nil hne
    simp [continues, hgap a List.mem_cons_self]
  rw [words_of_not_continues hc hends, words_of_gap hgap, wordAt_singleton_succ,
    wordAt_words_zero hd]
  rfl

/-- **Words lose nothing and end only where the kind of character asks for it.** Two neighbours of one
run are in different words just where a word ends between their kinds, and characters of two runs
always are. -/
theorem words_boundaries (s : List Char) :
    (words s).flatten = s.filter isAlphanumeric ∧ (∀ w ∈ words s, IsWord w) ∧
      (∀ before c d rest, s = before ++ c :: d :: rest → isAlphanumeric c → isAlphanumeric d →
        ∃ i j, wordAt (words s) (before.filter isAlphanumeric).length = some i ∧
          wordAt (words s) ((before.filter isAlphanumeric).length + 1) = some j ∧
          (i ≠ j ↔ EndsBetween c d rest)) ∧
      ∀ before c gap d rest, s = before ++ c :: (gap ++ d :: rest) → isAlphanumeric c →
        isAlphanumeric d → gap ≠ [] → (∀ a ∈ gap, ¬ isAlphanumeric a) →
        ∃ i j, wordAt (words s) (before.filter isAlphanumeric).length = some i ∧
          wordAt (words s) ((before.filter isAlphanumeric).length + 1) = some j ∧ i ≠ j := by
  refine ⟨flatten_words s, fun w => isWord_of_mem_words, ?_, ?_⟩
  · rintro before c d rest rfl hc hd
    obtain ⟨k, hk⟩ := exists_wordAt_append before (c :: d :: rest)
    obtain ⟨j, hj, hends⟩ := wordAt_words_one hc hd
    refine ⟨0 + k, j + k, ?_, ?_, ?_⟩
    · simpa [wordAt_words_zero hc] using hk 0
    · rw [hk 1, hj]
      rfl
    · rw [← hends, ne_eq, Nat.add_right_cancel_iff]
  · rintro before c gap d rest rfl hc hd hne hgap
    obtain ⟨k, hk⟩ := exists_wordAt_append before (c :: (gap ++ d :: rest))
    refine ⟨0 + k, 1 + k, ?_, ?_, by simp⟩
    · simpa [wordAt_words_zero hc] using hk 0
    · simpa [wordAt_words_of_gap hc hd hne hgap] using hk 1

/-- The last capital of an acronym belongs to the word after it. -/
theorem words_boundaries_acronym :
    IsWord "Http".toList ∧ EndsBetween 'L' 'H' "ttp7_x".toList ∧
      ¬ EndsBetween 'X' 'M' "LHttp7_x".toList ∧
      ∃ i j, wordAt (words "XMLHttp7_x".toList) 7 = some i ∧
        wordAt (words "XMLHttp7_x".toList) 8 = some j ∧ i ≠ j := by
  obtain ⟨-, hwords, hneighbours, hruns⟩ := words_boundaries "XMLHttp7_x".toList
  obtain ⟨i, j, hi, hj, hLH⟩ := hneighbours "XM".toList 'L' 'H' "ttp7_x".toList (by decide)
    (by decide +kernel) (by decide +kernel)
  obtain ⟨k, l, hk, hl, hXM⟩ := hneighbours [] 'X' 'M' "LHttp7_x".toList (by decide)
    (by decide +kernel) (by decide +kernel)
  have hnumbers : (wordAt (words "XMLHttp7_x".toList) 2 = some 0 ∧
      wordAt (words "XMLHttp7_x".toList) 3 = some 1) ∧
      wordAt (words "XMLHttp7_x".toList) 0 = some 0 ∧
      wordAt (words "XMLHttp7_x".toList) 1 = some 0 := by decide +kernel
  obtain rfl := Option.some.inj (hi.symm.trans hnumbers.1.1)
  obtain rfl := Option.some.inj (hj.symm.trans hnumbers.1.2)
  obtain rfl := Option.some.inj (hk.symm.trans hnumbers.2.1)
  obtain rfl := Option.some.inj (hl.symm.trans hnumbers.2.2)
  refine ⟨hwords _ (by decide +kernel), hLH.mp (by decide), fun h => hXM.mpr h rfl, ?_⟩
  have hgap : ∀ a ∈ ['_'], ¬ isAlphanumeric a := by
    have hplain : isAlphanumeric '_' = false := by decide +kernel
    simp [hplain]
  exact hruns "XMLHttp".toList '7' ['_'] 'x' [] (by decide) (by decide +kernel)
    (by decide +kernel) (List.cons_ne_nil _ _) hgap

end GraphQuery.Naming
