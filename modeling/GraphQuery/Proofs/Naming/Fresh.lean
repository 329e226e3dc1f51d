import Mathlib.Data.List.MinMax
import Mathlib.Data.List.Perm.Subperm
import GraphQuery.Naming.Unique

/-!
# Chosen names are new

The suffix of a chosen name is not in use for its stem, and writing a suffix after a stem and
reading it back gives the suffix. So a chosen name differs from every existing one
(`uniqueName_not_mem`), whatever the existing names look like, as long as there are no more of them
than suffixes.
-/

namespace GraphQuery.Naming

/-! ## Suffixes that are free -/

theorem le_highest {n : Nat} {taken : List Nat} (h : n ∈ taken) : n ≤ taken.foldr max 0 :=
  List.le_max_of_le' 0 h (Nat.le_refl n)

theorem exists_free (taken : List Nat) :
    ∃ n ∈ (List.range (taken.length + 1)).map (· + 1), n ∉ taken := by
  refine Classical.byContradiction fun hno => ?_
  have hsub : (List.range (taken.length + 1)).map (· + 1) ⊆ taken := by
    intro n hn
    exact Classical.byContradiction fun hnt => hno ⟨n, hn, hnt⟩
  have hnodup : ((List.range (taken.length + 1)).map (· + 1)).Nodup :=
    List.Pairwise.map _ (fun _ _ hab h => hab (Nat.succ.inj h)) List.nodup_range
  have hlen := (List.subperm_of_subset hnodup hsub).length_le
  simp only [List.length_map, List.length_range] at hlen
  omega

theorem leastFree_spec (taken : List Nat) :
    leastFree taken ∉ taken ∧ leastFree taken ≤ taken.length + 1 := by
  obtain ⟨n, hn, hfree⟩ := exists_free taken
  unfold leastFree
  cases hfind : ((List.range (taken.length + 1)).map (· + 1)).find? (· ∉ taken) with
  | none => exact absurd (List.find?_eq_none.mp hfind n hn) (by simpa using hfree)
  | some m =>
    have hm := List.mem_of_find?_eq_some hfind
    simp only [List.mem_map, List.mem_range] at hm
    obtain ⟨i, hi, rfl⟩ := hm
    exact ⟨by simpa using List.find?_some hfind, hi⟩

theorem nextSuffix_not_mem (taken : List Nat) : nextSuffix taken ∉ taken := by
  unfold nextSuffix
  by_cases hmax : taken.foldr max 0 < maxSuffix
  · simp only [hmax, if_true]
    exact fun hmem => absurd (le_highest hmem) (Nat.not_succ_le_self _)
  · simp only [hmax, if_false]
    exact (leastFree_spec taken).1

theorem nextSuffix_le (taken : List Nat) :
    nextSuffix taken ≤ maxSuffix ∨ nextSuffix taken ≤ taken.length + 1 := by
  unfold nextSuffix
  by_cases hmax : taken.foldr max 0 < maxSuffix
  · simp only [hmax, if_true]
    exact .inl hmax
  · simp only [hmax, if_false]
    exact .inr (leastFree_spec taken).2

theorem chooseSuffix_not_mem (requested : Option Nat) (taken : List Nat) :
    chooseSuffix requested taken ∉ taken := by
  cases requested with
  | none => exact nextSuffix_not_mem taken
  | some n =>
    show (if n ≠ 0 ∧ n ∉ taken then n else nextSuffix taken) ∉ taken
    split
    · rename_i hn
      exact hn.2
    · exact nextSuffix_not_mem taken

theorem chooseSuffix_le {requested : Option Nat} (taken : List Nat)
    (hreq : ∀ n ∈ requested, n ≤ maxSuffix) :
    chooseSuffix requested taken ≤ maxSuffix ∨
      chooseSuffix requested taken ≤ taken.length + 1 := by
  cases requested with
  | none => exact nextSuffix_le taken
  | some n =>
    show (if n ≠ 0 ∧ n ∉ taken then n else nextSuffix taken) ≤ maxSuffix ∨
      (if n ≠ 0 ∧ n ∉ taken then n else nextSuffix taken) ≤ taken.length + 1
    split
    · exact .inl (hreq n rfl)
    · exact nextSuffix_le taken

/-! ## Suffixes written and read -/

theorem suffix?_le {digits : List Char} {n : Nat} (h : suffix? digits = some n) : n ≤ maxSuffix := by
  unfold suffix? at h
  split at h
  · rename_i hd
    obtain rfl := Option.some.inj h
    exact hd.2.2
  · cases h

theorem splitSuffix_le (name : List Char) : ∀ n ∈ (splitSuffix name).2, n ≤ maxSuffix := by
  intro n hn
  unfold splitSuffix at hn
  split at hn
  · rename_i m hm
    obtain rfl := Option.some.inj hn
    exact suffix?_le hm
  · cases hn

theorem all_toDigits (n : Nat) : (Nat.toDigits 10 n).all Char.isDigit := by
  rw [List.all_eq_true]
  exact fun c hc => Nat.isDigit_of_mem_toDigits (by decide) (by decide) hc

theorem suffix?_toDigits {n : Nat} (h : n ≤ maxSuffix) : suffix? (Nat.toDigits 10 n) = some n := by
  unfold suffix?
  rw [Nat.ofDigitChars_ten_toDigits, if_pos ⟨Nat.toDigits_ne_nil, all_toDigits n, h⟩]

theorem takenSuffix?_append (stem rest : List Char) :
    takenSuffix? stem (stem ++ rest) = if rest = [] then some 1 else suffix? rest := by
  have hpre : stem.isPrefixOf? (stem ++ rest) = some rest :=
    List.isPrefixOf?_eq_some_iff_append_eq.mpr rfl
  unfold takenSuffix?
  rw [hpre]
  cases rest <;> simp

theorem takenSuffix?_withSuffix {stem : List Char} {n : Nat} (h : n ≤ maxSuffix) :
    takenSuffix? stem (withSuffix stem n) = some n := by
  unfold withSuffix
  by_cases hn : n = 1
  · subst hn
    have := takenSuffix?_append stem []
    simpa using this
  · rw [if_neg hn, takenSuffix?_append, if_neg Nat.toDigits_ne_nil, suffix?_toDigits h]

theorem takenSuffix?_withSuffix_of_lt {stem : List Char} {n : Nat} (h : maxSuffix < n) :
    takenSuffix? stem (withSuffix stem n) = none := by
  have hone : n ≠ 1 := by
    rintro rfl
    exact absurd h (by decide)
  unfold withSuffix
  rw [if_neg hone, takenSuffix?_append, if_neg Nat.toDigits_ne_nil]
  unfold suffix?
  rw [Nat.ofDigitChars_ten_toDigits, if_neg fun hd => absurd hd.2.2 (Nat.not_le_of_lt h)]

/-- **A chosen name is new.** -/
theorem uniqueName_not_mem {requested : String} {existing : List String}
    (h : existing.length ≤ maxSuffix) : uniqueName requested existing ∉ existing := by
  let stem := (splitSuffix (canonical requested.toList)).1
  let suffix := (splitSuffix (canonical requested.toList)).2
  let taken := existing.filterMap fun name => takenSuffix? stem name.toList
  have hname : (uniqueName requested existing).toList =
      withSuffix stem (chooseSuffix suffix taken) := String.toList_ofList
  have hlen : taken.length ≤ existing.length := List.length_filterMap_le _ existing
  intro hmem
  by_cases hfits : chooseSuffix suffix taken ≤ maxSuffix
  · -- the name itself would take its suffix away
    refine chooseSuffix_not_mem suffix taken (List.mem_filterMap.mpr ⟨_, hmem, ?_⟩)
    rw [hname, takenSuffix?_withSuffix hfits]
  · -- then every existing name has a suffix, which the chosen one has not
    have hle : chooseSuffix suffix taken ≤ taken.length + 1 :=
      (chooseSuffix_le taken (splitSuffix_le (canonical requested.toList))).resolve_left hfits
    have hall : taken.length = existing.length := by omega
    have hsome := List.filterMap_length_eq_length.mp hall _ hmem
    rw [hname, takenSuffix?_withSuffix_of_lt (Nat.lt_of_not_le hfits)] at hsome
    cases hsome

end GraphQuery.Naming
