import GraphQuery.Proofs.Naming.Fresh

/-!
# Asking for a chosen name again

A chosen name is `Tidy`: the number at its end, if it is a suffix, is above one and has no leading
zeros. So a canonical name with a suffix is given again unless the very same name is in use
(`uniqueName_eq_self_of_numbered`). A canonical name without one is given again only if suffix one
is the next for it (`uniqueName_eq_self_iff_of_bare`).
-/

namespace GraphQuery.Naming

/-! ## The digits at the end of a name -/

section
variable {digits : List Char}

theorem withoutDigits_append_trailingDigits (name : List Char) :
    withoutDigits name ++ trailingDigits name = name := by
  unfold withoutDigits trailingDigits
  rw [← List.reverse_append, List.takeWhile_append_dropWhile, List.reverse_reverse]

theorem all_trailingDigits (name : List Char) : (trailingDigits name).all Char.isDigit := by
  unfold trailingDigits
  rw [List.all_reverse]
  exact List.all_takeWhile

theorem trailingDigits_append (stem : List Char) (h : digits.all Char.isDigit) :
    trailingDigits (stem ++ digits) = trailingDigits stem ++ digits := by
  have hall : ∀ c ∈ digits.reverse, c.isDigit = true := by
    intro c hc
    exact List.all_eq_true.mp h c (List.mem_reverse.mp hc)
  unfold trailingDigits
  rw [List.reverse_append, List.takeWhile_append_of_pos hall, List.reverse_append,
    List.reverse_reverse]

theorem withoutDigits_append (stem : List Char) (h : digits.all Char.isDigit) :
    withoutDigits (stem ++ digits) = withoutDigits stem := by
  have hall : ∀ c ∈ digits.reverse, c.isDigit = true := by
    intro c hc
    exact List.all_eq_true.mp h c (List.mem_reverse.mp hc)
  unfold withoutDigits
  rw [List.reverse_append, List.dropWhile_append_of_pos hall]

theorem trailingDigits_withoutDigits (name : List Char) :
    trailingDigits (withoutDigits name) = [] := by
  have happ := trailingDigits_append (withoutDigits name) (all_trailingDigits name)
  rw [withoutDigits_append_trailingDigits] at happ
  exact List.self_eq_append_left.mp happ

theorem withoutDigits_of_trailingDigits {stem : List Char} (h : trailingDigits stem = []) :
    withoutDigits stem = stem := by
  have happ := withoutDigits_append_trailingDigits stem
  rwa [h, List.append_nil] at happ

end

/-! ## Splitting a name -/

theorem suffix?_nil : suffix? [] = none := rfl

theorem suffix?_spec {digits : List Char} {n : Nat} (h : suffix? digits = some n) :
    digits ≠ [] ∧ digits.all Char.isDigit ∧ Nat.ofDigitChars 10 digits 0 = n := by
  unfold suffix? at h
  split at h
  · rename_i hd
    exact ⟨hd.1, hd.2.1, Option.some.inj h⟩
  · cases h

theorem splitSuffix_cases (name : List Char) :
    (suffix? (trailingDigits name) = none ∧ splitSuffix name = (name, none)) ∨
      ∃ n, suffix? (trailingDigits name) = some n ∧
        splitSuffix name = (withoutDigits name, some n) := by
  unfold splitSuffix
  cases h : suffix? (trailingDigits name) with
  | none => exact .inl ⟨rfl, rfl⟩
  | some n => exact .inr ⟨n, rfl, rfl⟩

theorem splitSuffix_of_bare {name : List Char} (h : (splitSuffix name).2 = none) :
    suffix? (trailingDigits name) = none ∧ splitSuffix name = (name, none) := by
  rcases splitSuffix_cases name with hbare | ⟨n, -, hsplit⟩
  · exact hbare
  · rw [hsplit] at h
    cases h

theorem splitSuffix_of_numbered {name : List Char} {n : Nat} (h : (splitSuffix name).2 = some n) :
    suffix? (trailingDigits name) = some n ∧ splitSuffix name = (withoutDigits name, some n) := by
  rcases splitSuffix_cases name with ⟨-, hsplit⟩ | ⟨m, hm, hsplit⟩
  · rw [hsplit] at h
    cases h
  · rw [hsplit] at h
    obtain rfl := Option.some.inj h
    exact ⟨hm, hsplit⟩

theorem bare_stem (name : List Char) : (splitSuffix (splitSuffix name).1).2 = none := by
  rcases splitSuffix_cases name with ⟨-, hsplit⟩ | ⟨n, -, hsplit⟩
  · rw [hsplit, hsplit]
  · rw [hsplit]
    unfold splitSuffix
    rw [trailingDigits_withoutDigits, suffix?_nil]

/-! ## Chosen names -/

/-- The suffix of a name, if it has one, is above one and written without leading zeros. -/
def Tidy (name : List Char) : Prop :=
  ∀ n, (splitSuffix name).2 = some n → 1 < n ∧ name = (splitSuffix name).1 ++ Nat.toDigits 10 n

theorem le_ofDigitChars (digits : List Char) :
    ∀ start : Nat, start ≤ Nat.ofDigitChars 10 digits start := by
  induction digits with
  | nil => exact fun start => Nat.le_of_eq Nat.ofDigitChars_nil.symm
  | cons c digits ih =>
    intro start
    rw [Nat.ofDigitChars_cons]
    refine Nat.le_trans ?_ (ih _)
    omega

/-- Digits that are too many for a suffix still are with more of them. -/
theorem suffix?_append_of_none {digits more : List Char} (hne : digits ≠ [])
    (hall : digits.all Char.isDigit) (h : suffix? digits = none) :
    suffix? (digits ++ more) = none := by
  have hlarge : maxSuffix < Nat.ofDigitChars 10 digits 0 := by
    refine Nat.lt_of_not_le fun hle => ?_
    unfold suffix? at h
    rw [if_pos ⟨hne, hall, hle⟩] at h
    cases h
  unfold suffix?
  rw [if_neg]
  rintro ⟨-, -, hle⟩
  rw [Nat.ofDigitChars_append] at hle
  exact absurd (Nat.lt_of_lt_of_le hlarge (le_ofDigitChars more _)) (Nat.not_lt_of_le hle)

theorem tidy_withSuffix {stem : List Char} {n : Nat} (hstem : (splitSuffix stem).2 = none)
    (hn : 0 < n) : Tidy (withSuffix stem n) := by
  unfold withSuffix
  intro m hm
  by_cases hone : n = 1
  · rw [if_pos hone, hstem] at hm
    cases hm
  · rw [if_neg hone] at hm ⊢
    obtain ⟨hsuffix, hsplit⟩ := splitSuffix_of_numbered hm
    rw [trailingDigits_append stem (all_toDigits n)] at hsuffix
    have htrailing : trailingDigits stem = [] := by
      refine Classical.byContradiction fun hne => ?_
      rw [suffix?_append_of_none hne (all_trailingDigits stem) (splitSuffix_of_bare hstem).1]
        at hsuffix
      cases hsuffix
    rw [htrailing, List.nil_append] at hsuffix
    have hvalue : n = m := by
      rw [← (suffix?_spec hsuffix).2.2, Nat.ofDigitChars_ten_toDigits]
    rw [hsplit, withoutDigits_append stem (all_toDigits n),
      withoutDigits_of_trailingDigits htrailing, ← hvalue]
    exact ⟨by omega, rfl⟩

theorem leastFree_pos (taken : List Nat) : 0 < leastFree taken := by
  unfold leastFree
  cases hfind : ((List.range (taken.length + 1)).map (· + 1)).find? (· ∉ taken) with
  | none => exact (by decide : 0 < maxSuffix)
  | some n =>
    obtain ⟨i, -, rfl⟩ := List.mem_map.mp (List.mem_of_find?_eq_some hfind)
    exact Nat.succ_pos i

theorem nextSuffix_pos (taken : List Nat) : 0 < nextSuffix taken := by
  unfold nextSuffix
  by_cases hmax : taken.foldr max 0 < maxSuffix
  · simp only [hmax, if_true]
    exact Nat.succ_pos _
  · simp only [hmax, if_false]
    exact leastFree_pos taken

theorem chooseSuffix_pos (requested : Option Nat) (taken : List Nat) :
    0 < chooseSuffix requested taken := by
  cases requested with
  | none => exact nextSuffix_pos taken
  | some n =>
    show 0 < if n ≠ 0 ∧ n ∉ taken then n else nextSuffix taken
    split
    · rename_i hn
      exact Nat.pos_of_ne_zero hn.1
    · exact nextSuffix_pos taken

theorem tidy_uniqueName (requested : String) (existing : List String) :
    Tidy (uniqueName requested existing).toList := by
  unfold uniqueName
  rw [String.toList_ofList]
  exact tidy_withSuffix (bare_stem _) (chooseSuffix_pos _ _)

/-! ## Giving a name again -/

/-- The suffixes that names have after a stem. -/
def suffixesInUse (stem : List Char) (existing : List String) : List Nat :=
  existing.filterMap fun name => takenSuffix? stem name.toList

theorem suffixesInUse_le (stem : List Char) (existing : List String) :
    ∀ n ∈ suffixesInUse stem existing, n ≤ maxSuffix := by
  intro n hn
  obtain ⟨name, -, htaken⟩ := List.mem_filterMap.mp hn
  unfold takenSuffix? at htaken
  split at htaken
  · cases htaken
  · obtain rfl := Option.some.inj htaken
    decide
  · exact suffix?_le htaken

theorem foldr_max_mem {taken : List Nat} (h : 0 < taken.foldr max 0) : taken.foldr max 0 ∈ taken := by
  induction taken with
  | nil => cases h
  | cons n taken ih =>
    rw [List.foldr_cons] at h ⊢
    rcases Nat.le_total (taken.foldr max 0) n with hle | hle
    · rw [Nat.max_eq_left hle]
      exact List.mem_cons_self ..
    · rw [Nat.max_eq_right hle] at h ⊢
      exact List.mem_cons_of_mem _ (ih h)

theorem leastFree_eq_one_iff {taken : List Nat} : leastFree taken = 1 ↔ 1 ∉ taken := by
  constructor
  · intro h
    rw [← h]
    exact (leastFree_spec taken).1
  · intro h
    unfold leastFree
    rw [List.range_succ_eq_map, List.map_cons, List.find?_cons_of_pos (by simpa using h)]
    rfl

theorem nextSuffix_eq_one_iff {taken : List Nat} (hle : ∀ n ∈ taken, n ≤ maxSuffix) :
    nextSuffix taken = 1 ↔ (∀ n ∈ taken, n = 0) ∨ (maxSuffix ∈ taken ∧ 1 ∉ taken) := by
  have hpos : 0 < maxSuffix := by decide
  unfold nextSuffix
  by_cases hmax : taken.foldr max 0 < maxSuffix
  · have hnot : maxSuffix ∉ taken := fun hmem => absurd (le_highest hmem) (Nat.not_le_of_lt hmax)
    simp only [hmax, if_true, hnot, false_and, or_false, Nat.add_eq_right]
    constructor
    · intro hzero n hn
      have := le_highest hn
      omega
    · intro hall
      refine Nat.eq_zero_of_not_pos fun hp => ?_
      exact absurd (hall _ (foldr_max_mem hp)) (Nat.pos_iff_ne_zero.mp hp)
  · have hmem : taken.foldr max 0 ∈ taken := foldr_max_mem (by omega)
    have htop : taken.foldr max 0 = maxSuffix := Nat.le_antisymm (hle _ hmem) (by omega)
    rw [htop] at hmem
    have hsome : ¬ ∀ n ∈ taken, n = 0 := fun hall => absurd (hall _ hmem) (by decide)
    simp only [hmax, if_false, hmem, true_and, hsome, false_or]
    exact leastFree_eq_one_iff

section
variable {name : String} {existing : List String}

theorem uniqueName_of_canonical (h : canonical name.toList = name.toList) :
    uniqueName name existing = String.ofList (withSuffix (splitSuffix name.toList).1
      (chooseSuffix (splitSuffix name.toList).2
        (suffixesInUse (splitSuffix name.toList).1 existing))) := by
  unfold uniqueName
  rw [h]
  rfl

theorem withSuffix_eq_self_iff {stem : List Char} {n : Nat} : withSuffix stem n = stem ↔ n = 1 := by
  unfold withSuffix
  by_cases hn : n = 1
  · simp [hn]
  · simp [hn, Nat.toDigits_ne_nil]

/-- A name without a suffix is given again just if no numbered variant of it is in use, or if the
greatest number is and one is not. -/
theorem uniqueName_eq_self_iff_of_bare (hcanon : canonical name.toList = name.toList)
    (hbare : (splitSuffix name.toList).2 = none) :
    uniqueName name existing = name ↔
      (∀ n ∈ suffixesInUse name.toList existing, n = 0) ∨
        (maxSuffix ∈ suffixesInUse name.toList existing ∧
          1 ∉ suffixesInUse name.toList existing) := by
  rw [uniqueName_of_canonical hcanon, (splitSuffix_of_bare hbare).2, ← String.toList_inj,
    String.toList_ofList]
  exact withSuffix_eq_self_iff.trans (nextSuffix_eq_one_iff (suffixesInUse_le _ _))

/-- Among tidy names, only a numbered name itself uses its number. -/
theorem mem_of_suffix_in_use {n : Nat} (htidy : Tidy name.toList)
    (hexisting : ∀ other ∈ existing, Tidy other.toList)
    (hsuffix : (splitSuffix name.toList).2 = some n)
    (hn : n ∈ suffixesInUse (splitSuffix name.toList).1 existing) : name ∈ existing := by
  obtain ⟨hone, hname⟩ := htidy n hsuffix
  obtain ⟨other, hother, htaken⟩ := List.mem_filterMap.mp hn
  have hstem : trailingDigits (splitSuffix name.toList).1 = [] := by
    rw [(splitSuffix_of_numbered hsuffix).2]
    exact trailingDigits_withoutDigits _
  generalize (splitSuffix name.toList).1 = stem at hname htaken hstem
  unfold takenSuffix? at htaken
  split at htaken
  · cases htaken
  · obtain rfl := Option.some.inj htaken
    exact absurd hone (Nat.lt_irrefl 1)
  · rename_i rest hne hprefix
    have happ : stem ++ rest = other.toList := List.isPrefixOf?_eq_some_iff_append_eq.mp hprefix
    have hdigits := (suffix?_spec htaken).2.1
    have hsplit : splitSuffix other.toList = (stem, some n) := by
      unfold splitSuffix
      rw [← happ, trailingDigits_append stem hdigits, hstem, List.nil_append, htaken,
        withoutDigits_append stem hdigits, withoutDigits_of_trailingDigits hstem]
    have hsame := (hexisting other hother n (by rw [hsplit])).2
    rw [hsplit, ← hname] at hsame
    rwa [← String.toList_inj.mp hsame]

theorem uniqueName_eq_self_of_numbered {n : Nat} (hcanon : canonical name.toList = name.toList)
    (htidy : Tidy name.toList) (hexisting : ∀ other ∈ existing, Tidy other.toList)
    (hsuffix : (splitSuffix name.toList).2 = some n) (hnew : name ∉ existing) :
    uniqueName name existing = name := by
  obtain ⟨hone, hname⟩ := htidy n hsuffix
  have hfree : n ∉ suffixesInUse (splitSuffix name.toList).1 existing := fun hn =>
    hnew (mem_of_suffix_in_use htidy hexisting hsuffix hn)
  have hchoice : chooseSuffix (some n) (suffixesInUse (splitSuffix name.toList).1 existing) = n := by
    unfold chooseSuffix
    exact if_pos ⟨by omega, hfree⟩
  rw [uniqueName_of_canonical hcanon, hsuffix, hchoice]
  unfold withSuffix
  rw [if_neg (by omega), ← hname, String.ofList_toList]

end

end GraphQuery.Naming
