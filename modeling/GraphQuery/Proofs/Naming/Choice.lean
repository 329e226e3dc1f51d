import GraphQuery.Proofs.Naming.Again
import Mathlib.Algebra.Ring.Nat
import Mathlib.Order.Bounds.Basic

/-!
# Which name is chosen

`Chosen` says what name a request has to get and leaves open how it is found: the canonical form is
split before the digits at its end, and the suffix is the requested one, the one after the highest
in use, or the least that is free. `uniqueName_eq_iff`: this and no other name is given, it is new,
and there is always a free suffix among the first few.
-/

namespace GraphQuery.Naming

/-! ## Suffixes in use -/

/-- ASCII digits that denote a number. -/
structure Denotes (digits : List Char) (n : Nat) : Prop where
  ne_nil : digits ≠ []
  all : digits.all Char.isDigit
  value : Nat.ofDigitChars 10 digits 0 = n

theorem suffix?_eq_some_iff {digits : List Char} {n : Nat} :
    suffix? digits = some n ↔ Denotes digits n ∧ n ≤ maxSuffix := by
  constructor
  · intro h
    obtain ⟨hne, hall, hvalue⟩ := suffix?_spec h
    exact ⟨⟨hne, hall, hvalue⟩, suffix?_le h⟩
  · rintro ⟨⟨hne, hall, rfl⟩, hle⟩
    exact if_pos ⟨hne, hall, hle⟩

/-- A name has a number after a stem; the stem alone counts as one. -/
inductive Carries (stem : List Char) : Nat → List Char → Prop
  | bare : Carries stem 1 stem
  | numbered {digits : List Char} {n : Nat} : Denotes digits n → Carries stem n (stem ++ digits)

theorem takenSuffix?_eq_some_iff {stem name : List Char} {n : Nat} :
    takenSuffix? stem name = some n ↔ Carries stem n name ∧ n ≤ maxSuffix := by
  constructor
  · intro h
    unfold takenSuffix? at h
    split at h
    · cases h
    · rename_i hprefix
      have happ : stem ++ [] = name := List.isPrefixOf?_eq_some_iff_append_eq.mp hprefix
      rw [List.append_nil] at happ
      cases h
      exact ⟨happ ▸ .bare, by decide⟩
    · rename_i digits _ hprefix
      have happ : stem ++ digits = name := List.isPrefixOf?_eq_some_iff_append_eq.mp hprefix
      obtain ⟨hdigits, hle⟩ := suffix?_eq_some_iff.mp h
      exact ⟨happ ▸ .numbered hdigits, hle⟩
  · rintro ⟨hcarries, hle⟩
    cases hcarries with
    | bare =>
      have hbare := takenSuffix?_append stem []
      rwa [List.append_nil, if_pos rfl] at hbare
    | numbered hdigits =>
      rw [takenSuffix?_append, if_neg hdigits.ne_nil]
      exact suffix?_eq_some_iff.mpr ⟨hdigits, hle⟩

/-- A number that fits 64 bits and that some name has after a stem. -/
def InUse (stem : List Char) (existing : List String) (n : Nat) : Prop :=
  n ≤ maxSuffix ∧ ∃ name ∈ existing, Carries stem n name.toList

theorem mem_suffixesInUse_iff {stem : List Char} {existing : List String} {n : Nat} :
    n ∈ suffixesInUse stem existing ↔ InUse stem existing n := by
  constructor
  · intro h
    obtain ⟨name, hname, htaken⟩ := List.mem_filterMap.mp h
    obtain ⟨hcarries, hle⟩ := takenSuffix?_eq_some_iff.mp htaken
    exact ⟨hle, name, hname, hcarries⟩
  · rintro ⟨hle, name, hname, hcarries⟩
    exact List.mem_filterMap.mpr ⟨name, hname, takenSuffix?_eq_some_iff.mpr ⟨hcarries, hle⟩⟩

/-! ## Stem and suffix of a name -/

/-- The last character, if there is one, is not a digit. -/
def EndsPlain (name : List Char) : Prop :=
  ∀ c ∈ name.getLast?, c.isDigit = false

theorem endsPlain_iff {name : List Char} : EndsPlain name ↔ trailingDigits name = [] := by
  rcases List.eq_nil_or_concat name with rfl | ⟨front, c, rfl⟩
  · simp [EndsPlain, trailingDigits]
  · cases hc : c.isDigit <;> simp [EndsPlain, trailingDigits, hc]

theorem endsPlain_withoutDigits (name : List Char) : EndsPlain (withoutDigits name) :=
  endsPlain_iff.mpr (trailingDigits_withoutDigits name)

theorem trailingDigits_of_append {stem digits name : List Char} (happ : stem ++ digits = name)
    (hplain : EndsPlain stem) (hall : digits.all Char.isDigit) :
    trailingDigits name = digits ∧ withoutDigits name = stem := by
  rw [endsPlain_iff] at hplain
  subst happ
  rw [trailingDigits_append stem hall, hplain, List.nil_append, withoutDigits_append stem hall,
    withoutDigits_of_trailingDigits hplain]
  exact ⟨rfl, rfl⟩

/-- The digits at the end of a name are its suffix if they fit 64 bits, and else part of the
stem. -/
inductive Splits (name : List Char) : List Char → Option Nat → Prop
  | bare : (∀ stem digits n, stem ++ digits = name → EndsPlain stem → Denotes digits n →
      maxSuffix < n) → Splits name name none
  | numbered {stem digits : List Char} {n : Nat} : stem ++ digits = name → EndsPlain stem →
      Denotes digits n → n ≤ maxSuffix → Splits name stem (some n)

theorem splitSuffix_eq_iff {name stem : List Char} {suffix : Option Nat} :
    splitSuffix name = (stem, suffix) ↔ Splits name stem suffix := by
  constructor
  · intro h
    rcases splitSuffix_cases name with ⟨hnone, hsplit⟩ | ⟨n, hsome, hsplit⟩
    · obtain ⟨rfl, rfl⟩ := Prod.mk.inj (hsplit.symm.trans h)
      refine .bare fun stem digits n happ hplain hdigits => Nat.lt_of_not_le fun hle => ?_
      have hsome := suffix?_eq_some_iff.mpr ⟨hdigits, hle⟩
      rw [← (trailingDigits_of_append happ hplain hdigits.all).1, hnone] at hsome
      cases hsome
    · obtain ⟨rfl, rfl⟩ := Prod.mk.inj (hsplit.symm.trans h)
      obtain ⟨hdigits, hle⟩ := suffix?_eq_some_iff.mp hsome
      exact .numbered (withoutDigits_append_trailingDigits name) (endsPlain_withoutDigits name)
        hdigits hle
  · intro h
    unfold splitSuffix
    cases h with
    | bare hlarge =>
      cases hsome : suffix? (trailingDigits name) with
      | none => rfl
      | some n =>
        obtain ⟨hdigits, hle⟩ := suffix?_eq_some_iff.mp hsome
        have hlt := hlarge _ _ n (withoutDigits_append_trailingDigits name)
          (endsPlain_withoutDigits name) hdigits
        exact absurd hle (Nat.not_le_of_lt hlt)
    | numbered happ hplain hdigits hle =>
      obtain ⟨htrailing, hstem⟩ := trailingDigits_of_append happ hplain hdigits.all
      rw [htrailing, suffix?_eq_some_iff.mpr ⟨hdigits, hle⟩, hstem]

/-! ## The number that is picked -/

/-- The requested number if it is positive and free; otherwise the one after the highest in use,
or the least free one if the highest is the greatest there is. -/
inductive Picks (taken : Nat → Prop) : Option Nat → Nat → Prop
  | own {n : Nat} : 0 < n → ¬ taken n → Picks taken (some n) n
  | after {requested : Option Nat} {highest : Nat} : (∀ n ∈ requested, n = 0 ∨ taken n) →
      IsGreatest {n | n = 0 ∨ taken n} highest → highest < maxSuffix →
      Picks taken requested (highest + 1)
  | least {requested : Option Nat} {n : Nat} : (∀ n ∈ requested, n = 0 ∨ taken n) →
      IsGreatest {n | n = 0 ∨ taken n} maxSuffix → IsLeast {n | 0 < n ∧ ¬ taken n} n →
      Picks taken requested n

section
variable {taken : List Nat} {requested : Option Nat}

theorem isGreatest_highest (taken : List Nat) :
    IsGreatest {n | n = 0 ∨ n ∈ taken} (taken.foldr max 0) := by
  constructor
  · rcases Nat.eq_zero_or_pos (taken.foldr max 0) with hzero | hpos
    · exact .inl hzero
    · exact .inr (foldr_max_mem hpos)
  · rintro n (rfl | hn)
    · exact Nat.zero_le _
    · exact le_highest hn

theorem leastFree_le {n : Nat} (hpos : 0 < n) (hfree : n ∉ taken) : leastFree taken ≤ n := by
  by_cases hn : n ≤ taken.length + 1
  · unfold leastFree
    cases hfind : ((List.range (taken.length + 1)).map (· + 1)).find? (· ∉ taken) with
    | none =>
      have hmem : n ∈ (List.range (taken.length + 1)).map (· + 1) :=
        List.mem_map.mpr ⟨n - 1, List.mem_range.mpr (by omega), by omega⟩
      exact absurd (List.find?_eq_none.mp hfind n hmem) (by simpa using hfree)
    | some m =>
      rw [List.find?_map, Option.map_eq_some_iff] at hfind
      obtain ⟨i, hi, rfl⟩ := hfind
      rw [List.find?_range_eq_some] at hi
      refine Nat.le_of_not_lt fun (hlt : n < i + 1) => ?_
      have hbefore := hi.2.2 (n - 1) (by omega)
      rw [Function.comp_apply, Nat.sub_add_cancel hpos] at hbefore
      simp [hfree] at hbefore
  · exact Nat.le_trans (leastFree_spec taken).2 (by omega)

theorem isLeast_leastFree (taken : List Nat) :
    IsLeast {n | 0 < n ∧ n ∉ taken} (leastFree taken) :=
  ⟨⟨leastFree_pos taken, (leastFree_spec taken).1⟩, fun _ hn => leastFree_le hn.1 hn.2⟩

theorem picks_nextSuffix (hle : ∀ n ∈ taken, n ≤ maxSuffix)
    (hreq : ∀ n ∈ requested, n = 0 ∨ n ∈ taken) :
    Picks (· ∈ taken) requested (nextSuffix taken) := by
  have hgreatest := isGreatest_highest taken
  unfold nextSuffix
  by_cases hroom : taken.foldr max 0 < maxSuffix
  · simp only [hroom, if_true]
    exact .after hreq hgreatest hroom
  · simp only [hroom, if_false]
    have hfull : maxSuffix ≤ taken.foldr max 0 := Nat.le_of_not_lt hroom
    have hmem : taken.foldr max 0 ∈ taken :=
      foldr_max_mem (Nat.lt_of_lt_of_le (by decide) hfull)
    have htop : taken.foldr max 0 = maxSuffix := Nat.le_antisymm (hle _ hmem) hfull
    rw [htop] at hgreatest
    exact .least hreq hgreatest (isLeast_leastFree taken)

theorem picks_chooseSuffix (hle : ∀ n ∈ taken, n ≤ maxSuffix) :
    Picks (· ∈ taken) requested (chooseSuffix requested taken) := by
  cases requested with
  | none => exact picks_nextSuffix hle (by simp)
  | some n =>
    unfold chooseSuffix
    by_cases hn : n ≠ 0 ∧ n ∉ taken
    · simp only [hn, ne_eq, not_false_eq_true, and_self, if_true]
      exact .own (Nat.pos_of_ne_zero hn.1) hn.2
    · simp only [hn, if_false]
      refine picks_nextSuffix hle ?_
      rintro m ⟨⟩
      by_cases hzero : n = 0
      · exact .inl hzero
      · exact .inr (Classical.byContradiction fun hfree => hn ⟨hzero, hfree⟩)

theorem Picks.unique {taken : Nat → Prop} {n m : Nat} (h : Picks taken requested n)
    (h' : Picks taken requested m) : n = m := by
  have howned : ∀ {k : Nat}, 0 < k → ¬ taken k → ¬ (k = 0 ∨ taken k) := by
    rintro k hpos hfree (hzero | htaken)
    · omega
    · exact hfree htaken
  cases h with
  | own hpos hfree =>
    cases h' with
    | own _ _ => rfl
    | after hno _ _ => exact absurd (hno n rfl) (howned hpos hfree)
    | least hno _ _ => exact absurd (hno n rfl) (howned hpos hfree)
  | after hno hgreatest hroom =>
    cases h' with
    | own hpos hfree => exact absurd (hno m rfl) (howned hpos hfree)
    | after _ hgreatest' _ => rw [hgreatest.unique hgreatest']
    | least _ hgreatest' _ => exact absurd (hgreatest.unique hgreatest') (Nat.ne_of_lt hroom)
  | least hno hgreatest hleast =>
    cases h' with
    | own hpos hfree => exact absurd (hno m rfl) (howned hpos hfree)
    | after _ hgreatest' hroom => exact absurd (hgreatest'.unique hgreatest) (Nat.ne_of_lt hroom)
    | least _ _ hleast' => exact hleast.unique hleast'

end

/-! ## The name that is chosen -/

/-- The request in camel case, with a `p` in front if nothing but digits is left. -/
inductive IsCanonical (requested : List Char) : List Char → Prop
  | words : (∃ c ∈ camelCase requested, c.isDigit = false) →
      IsCanonical requested (camelCase requested)
  | digits : (∀ c ∈ camelCase requested, c.isDigit = true) →
      IsCanonical requested ('p' :: camelCase requested)

theorem canonical_eq_iff {requested name : List Char} :
    canonical requested = name ↔ IsCanonical requested name := by
  unfold canonical
  by_cases hall : (camelCase requested).all Char.isDigit
  · simp only [hall, if_true]
    rw [List.all_eq_true] at hall
    constructor
    · rintro rfl
      exact .digits hall
    · rintro (⟨c, hc, hplain⟩ | -)
      · rw [hall c hc] at hplain
        cases hplain
      · rfl
  · simp only [hall]
    have hsome : ∃ c ∈ camelCase requested, c.isDigit = false := by simpa using hall
    constructor
    · rintro rfl
      exact .words hsome
    · rintro (- | hdigits)
      · rfl
      · exact absurd (List.all_eq_true.mpr hdigits) hall

/-- The name that a request has to get beside existing names. -/
def Chosen (requested : List Char) (existing : List String) (name : List Char) : Prop :=
  ∃ whole stem suffix n, IsCanonical requested whole ∧ Splits whole stem suffix ∧
    Picks (InUse stem existing) suffix n ∧
    name = if n = 1 then stem else stem ++ Nat.toDigits 10 n

theorem uniqueName_eq_iff_chosen {requested name : String} {existing : List String} :
    uniqueName requested existing = name ↔ Chosen requested.toList existing name.toList := by
  let whole := canonical requested.toList
  let stem := (splitSuffix whole).1
  let suffix := (splitSuffix whole).2
  have hname : (uniqueName requested existing).toList =
      withSuffix stem (chooseSuffix suffix (suffixesInUse stem existing)) := String.toList_ofList
  have hinUse : ∀ stem, (· ∈ suffixesInUse stem existing) = InUse stem existing := fun stem =>
    funext fun n => propext mem_suffixesInUse_iff
  have hpicks : Picks (· ∈ suffixesInUse stem existing) suffix
      (chooseSuffix suffix (suffixesInUse stem existing)) :=
    picks_chooseSuffix (suffixesInUse_le stem existing)
  constructor
  · rintro rfl
    rw [hinUse] at hpicks
    exact ⟨whole, stem, suffix, _, canonical_eq_iff.mp rfl, splitSuffix_eq_iff.mp rfl, hpicks, hname⟩
  · rintro ⟨whole', stem', suffix', n, hcanonical, hsplits, hpicks', hwritten⟩
    obtain rfl : whole = whole' := canonical_eq_iff.mpr hcanonical
    obtain ⟨rfl, rfl⟩ : stem = stem' ∧ suffix = suffix' :=
      Prod.mk.inj (splitSuffix_eq_iff.mpr hsplits)
    rw [← hinUse] at hpicks'
    rw [← String.toList_inj, hname, hwritten, hpicks.unique hpicks']
    rfl

/-- **The name that is chosen.** Beside fewer names than there are 64-bit numbers, a request gets a
new name, and it is the one that `Chosen` describes. For every stem the least free suffix is at most
one above the number of names, so looking for it comes to an end. -/
theorem uniqueName_eq_iff {existing : List String} (h : existing.length < 2 ^ 64)
    (requested : String) :
    uniqueName requested existing ∉ existing ∧
      (∀ name, uniqueName requested existing = name ↔
        Chosen requested.toList existing name.toList) ∧
      ∀ stem, ∃ n ≤ existing.length + 1, IsLeast {n | 0 < n ∧ ¬ InUse stem existing n} n := by
  have hroom : existing.length ≤ maxSuffix := Nat.le_of_lt_succ (show _ < maxSuffix + 1 from h)
  refine ⟨uniqueName_not_mem hroom, fun name => uniqueName_eq_iff_chosen, ?_⟩
  intro stem
  have hlength : (suffixesInUse stem existing).length ≤ existing.length :=
    List.length_filterMap_le _ existing
  have hleast := isLeast_leastFree (suffixesInUse stem existing)
  simp only [mem_suffixesInUse_iff] at hleast
  refine ⟨_, Nat.le_trans (leastFree_spec _).2 ?_, hleast⟩
  omega

/-- One, two and the greatest suffix are in use, the two with zeros in front. -/
def saturated : List String :=
  ["name18446744073709551615", "name", "name002", "names4", "name99999999999999999999"]

theorem uniqueName_eq_iff_saturated :
    saturated.length < 2 ^ 64 ∧
      Chosen "name18446744073709551615".toList saturated "name3".toList ∧
      "name3" ∉ saturated := by
  have hfew : saturated.length < 2 ^ 64 := by decide
  obtain ⟨hnew, hchosen, -⟩ := uniqueName_eq_iff hfew "name18446744073709551615"
  have hname : uniqueName "name18446744073709551615" saturated = "name3" := by decide +kernel
  exact ⟨hfew, (hchosen "name3").mp hname, hname ▸ hnew⟩

end GraphQuery.Naming
