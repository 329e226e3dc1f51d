import GraphQuery.Proofs.Naming.Boundaries
import GraphQuery.Proofs.Naming.Settled

/-!
# Single letters side by side

On ASCII text every word that is capitalised stays, whatever stands around it, apart from a single
letter after another one: both are capitals then, and the second is taken for part of an acronym.
So the camel case of an ASCII request is settled just if the words after the first have no two
single letters side by side (`settled_camelCase_iff`). A number at the end of a name makes no
difference to that (`settled_uniqueName_iff`).
-/

namespace GraphQuery.Naming

open Literal Unicode

/-- A word of one letter. -/
def isInitial : List Char → Bool
  | [c] => !isNumeric c
  | _ => false

/-- No two words side by side are single letters. -/
def InitialsApart (ws : List (List Char)) : Prop :=
  ws.IsChain fun u v => ¬ (isInitial u ∧ isInitial v)

instance (ws : List (List Char)) : Decidable (InitialsApart ws) :=
  inferInstanceAs (Decidable (List.IsChain _ ws))

/-! ## One kind of characters -/

theorem kind_of_numeric {c : Char} : Kind.of c = .digit ↔ isNumeric c := by
  unfold Kind.of
  by_cases hc : isNumeric c
  · simp [hc]
  · rw [if_neg hc]
    split
    · simp [hc]
    · simp [hc]

/-- A run of characters of one kind that stay in lower case. -/
def Quiet (k : Kind) (u : List Char) : Prop :=
  ∀ c ∈ u, Kind.of c = k ∧ toLower c = [c]

theorem keptAfter_congr {c c' : Char} (h : Kind.of c = Kind.of c') (v : List Char) :
    KeptAfter c v ↔ KeptAfter c' v := by
  cases v with
  | nil => rfl
  | cons d v => rw [KeptAfter, KeptAfter, breaksBetween, breaksBetween, h]

theorem keptAfter_quiet {k : Kind} (hk : k ≠ .upper) {c : Char} (hc : Kind.of c = k)
    {u : List Char} (hu : Quiet k u) (v : List Char) : KeptAfter c (u ++ v) ↔ KeptAfter c v := by
  induction u generalizing c with
  | nil => rfl
  | cons d u ih =>
    obtain ⟨⟨hd, hlower⟩, hrest⟩ := List.forall_mem_cons.mp hu
    have hbreak : breaksBetween c d (u ++ v).head? = false := by
      unfold breaksBetween
      cases k with
      | upper => exact absurd rfl hk
      | lower => simp [hc, hd]
      | digit => simp [hc, hd]
    rw [List.cons_append, KeptAfter, hbreak, ih hd hrest, keptAfter_congr (hd.trans hc.symm)]
    simp [hlower]

/-! ## Capitalised words -/

/-- What a word is when it is capitalised: numerals, or a capital and small letters. -/
inductive Capitalised (w : List Char) : List Char → Prop
  | numerals {d : Char} {rest : List Char} : isInitial w = false → toUpper d = [d] →
      Quiet .digit (d :: rest) → Capitalised w (d :: rest)
  | letters {d : Char} {rest : List Char} : (isInitial w ↔ rest = []) → Kind.of d = .upper →
      toUpper d = [d] → toLower d ≠ [d] → Quiet .lower rest → Capitalised w (d :: rest)

theorem breaksBetween_upper {c d : Char} (hd : Kind.of d = .upper) (next : Option Char) :
    breaksBetween c d next ↔ (Kind.of c = .upper → ∃ e, next = some e ∧ Kind.of e = .lower) := by
  unfold breaksBetween
  rw [hd]
  cases hc : Kind.of c with
  | upper => simp [Option.any_eq_true]
  | lower => simp
  | digit => simp

theorem not_lower_of_head {ws : List (List Char)} (h : ∀ w ∈ ws, Capitalised w (capitalize w)) :
    ¬ ∃ e, (ws.flatMap capitalize).head? = some e ∧ Kind.of e = .lower := by
  cases ws with
  | nil => simp
  | cons w ws =>
    rw [List.flatMap_cons]
    generalize hv : capitalize w = v
    have hw := h w List.mem_cons_self
    rw [hv] at hw
    cases hw with
    | numerals _ _ hquiet => simp [(hquiet _ List.mem_cons_self).1]
    | letters _ hupper _ _ _ => simp [hupper]

/-- Capitalised words stay after a character just if no single letter stands after a capital. -/
theorem keptAfter_flatMap_capitalize {ws : List (List Char)}
    (h : ∀ w ∈ ws, Capitalised w (capitalize w)) (c : Char) :
    KeptAfter c (ws.flatMap capitalize) ↔
      (Kind.of c = .upper → ∀ w ∈ ws.head?, ¬ isInitial w) ∧ InitialsApart ws := by
  induction ws generalizing c with
  | nil => simp [KeptAfter, InitialsApart]
  | cons w ws ih =>
    obtain ⟨hw, hws⟩ := List.forall_mem_cons.mp h
    have happart : InitialsApart (w :: ws) ↔
        (∀ v ∈ ws.head?, ¬ (isInitial w ∧ isInitial v)) ∧ InitialsApart ws := List.isChain_cons
    have hnext := not_lower_of_head hws
    rw [List.flatMap_cons, happart]
    generalize capitalize w = v at hw
    cases hw with
    | @numerals d rest hinitial hupper hquiet =>
      obtain ⟨⟨hd, hlower⟩, hrest⟩ := List.forall_mem_cons.mp hquiet
      rw [List.cons_append, KeptAfter, keptAfter_quiet (by decide) hd hrest, ih hws]
      simp [hupper, hlower, hd, hinitial]
    | @letters d rest hinitial hd hupper hlower hquiet =>
      rw [List.cons_append, KeptAfter]
      simp only [hupper, hlower, breaksBetween_upper hd]
      cases rest with
      | nil =>
        have hw : isInitial w := hinitial.mpr rfl
        rw [List.nil_append, ih hws]
        simp only [hnext, hd]
        simp [hw]
      | cons e rest =>
        obtain ⟨⟨he, heLower⟩, hrest⟩ := List.forall_mem_cons.mp hquiet
        have hbreak : breaksBetween d e (rest ++ ws.flatMap capitalize).head? = false := by
          unfold breaksBetween
          simp [hd, he]
        have hw : isInitial w = false := by simpa using hinitial
        rw [List.cons_append, KeptAfter, hbreak, keptAfter_quiet (by decide) he hrest, ih hws]
        simp [hw, he, heLower]

/-! ## Words of ASCII text -/

theorem uniform_of_oneKind {k : Kind} {w : List Char} (hne : w ≠ []) (h : OneKind k w) :
    ∃ c rest, w = c :: rest ∧ ∀ d ∈ rest, isNumeric d = isNumeric c := by
  obtain ⟨c, rest, rfl⟩ := List.exists_cons_of_ne_nil hne
  obtain ⟨hc, hrest⟩ := oneKind_cons.mp h
  refine ⟨c, rest, rfl, fun d hd => ?_⟩
  rw [Bool.eq_iff_iff, ← kind_of_numeric, ← kind_of_numeric, hc, hrest d hd]

/-- Every word has a first character, and the others are numerals just if that one is. -/
theorem uniform_of_mem_words {s w : List Char} (h : w ∈ words s) :
    ∃ c rest, w = c :: rest ∧ ∀ d ∈ rest, isNumeric d = isNumeric c := by
  cases isWord_of_mem_words h with
  | numerals hne hall => exact uniform_of_oneKind hne hall
  | capitals hne hall => exact uniform_of_oneKind hne hall
  | small hne hall => exact uniform_of_oneKind hne hall
  | capitalised hc _ hall =>
    refine ⟨_, _, rfl, fun d hd => ?_⟩
    rw [Bool.eq_iff_iff, ← kind_of_numeric, ← kind_of_numeric, hc, hall d hd]
    simp

theorem toLower_of_ascii {c : Char} (hc : c.toNat < 128) (ha : isAlphanumeric c) :
    ∃ d, toLower c = [d] ∧ toLower d = [d] ∧
      Kind.of d = if isNumeric c then .digit else .lower := by
  have hlower : isAlphanumeric c → (toLower c).map (fun d => (toLower d == [d], Kind.of d)) =
      [(true, if isNumeric c then .digit else .lower)] := by
    apply ascii_forall _ hc
    decide +kernel
  simpa [List.map_eq_singleton_iff] using hlower ha

theorem toUpper_of_ascii {c : Char} (hc : c.toNat < 128) (ha : isAlphanumeric c) :
    ∃ d, toUpper c = [d] ∧ toUpper d = [d] ∧ (toLower d = [d] ↔ isNumeric c) ∧
      Kind.of d = if isNumeric c then .digit else .upper := by
  have hupper : isAlphanumeric c →
      (toUpper c).map (fun d => (toUpper d == [d], toLower d == [d], Kind.of d)) =
        [(true, isNumeric c, if isNumeric c then .digit else .upper)] := by
    apply ascii_forall _ hc
    decide +kernel
  obtain ⟨d, hd, hkept⟩ := List.map_eq_singleton_iff.mp (hupper ha)
  obtain ⟨hstays, hlower, hkind⟩ : (toUpper d == [d]) = true ∧ (toLower d == [d]) = isNumeric c ∧
      Kind.of d = if isNumeric c then .digit else .upper := by simpa using hkept
  exact ⟨d, hd, beq_iff_eq.mp hstays, by rw [← hlower, beq_iff_eq], hkind⟩

theorem isAlphanumeric_of_isAlphanum {c : Char} (h : c.isAlphanum) : isAlphanumeric c := by
  have hascii : c.toNat < 128 := by
    rcases Bool.or_eq_true_iff.mp h with halpha | hdigit
    · rcases Bool.or_eq_true_iff.mp halpha with hupper | hlower
      · exact Nat.lt_of_le_of_lt (of_decide_eq_true hupper).2 (by decide)
      · exact Nat.lt_of_le_of_lt (of_decide_eq_true (Bool.and_eq_true_iff.mp hlower).2) (by decide)
    · exact toNat_lt_of_isDigit hdigit
  have hletter : c.isAlphanum → isAlphanumeric c := by
    apply ascii_forall _ hascii
    decide +kernel
  exact hletter h

theorem quiet_flatMap_toLower {b : Bool} {u : List Char} (hascii : IsAscii u)
    (hall : ∀ c ∈ u, isAlphanumeric c) (hkind : ∀ c ∈ u, isNumeric c = b) :
    Quiet (if b then .digit else .lower) (u.flatMap toLower) := by
  intro d hd
  obtain ⟨c, hc, hd⟩ := List.mem_flatMap.mp hd
  obtain ⟨e, he, hlower, hek⟩ := toLower_of_ascii (hascii c hc) (hall c hc)
  rw [he, List.mem_singleton] at hd
  rw [hkind c hc] at hek
  exact hd ▸ ⟨hek, hlower⟩

section
variable {s w : List Char} (hascii : IsAscii s) (hw : w ∈ words s)
include hascii hw

theorem plain_of_mem_words : IsAscii w ∧ ∀ c ∈ w, isAlphanumeric c := by
  have hmem : ∀ c ∈ w, c ∈ s ∧ isAlphanumeric c := by
    intro c hc
    rw [← List.mem_filter, ← flatten_words]
    exact List.mem_flatten_of_mem hw hc
  exact ⟨fun c hc => hascii c (hmem c hc).1, fun c hc => (hmem c hc).2⟩

theorem capitalised_of_mem_words : Capitalised w (capitalize w) := by
  obtain ⟨c, rest, rfl, huniform⟩ := uniform_of_mem_words hw
  obtain ⟨hwa, hall⟩ := plain_of_mem_words hascii hw
  simp only [IsAscii, List.forall_mem_cons] at hwa hall
  obtain ⟨d, hd, hupper, hlower, hkind⟩ := toUpper_of_ascii hwa.1 hall.1
  have hquiet := quiet_flatMap_toLower hwa.2 hall.2 huniform
  rw [capitalize, hd, List.singleton_append]
  by_cases hc : isNumeric c
  · rw [if_pos hc] at hkind hquiet
    refine .numerals ?_ hupper (List.forall_mem_cons.mpr ⟨⟨hkind, hlower.mpr hc⟩, hquiet⟩)
    cases rest with
    | nil => simp [isInitial, hc]
    | cons e rest => rfl
  · rw [if_neg hc] at hkind hquiet
    refine .letters ?_ hkind hupper (mt hlower.mp hc) hquiet
    rw [(Respelled.flatMap honest_toLower rest).eq_nil_iff]
    cases rest with
    | nil => simp [isInitial, hc]
    | cons e rest => simp [isInitial]

theorem lowercase_of_mem_words :
    ∃ k ≠ Kind.upper, Quiet k (lowercase w) ∧ lowercase w ≠ [] := by
  obtain ⟨c, rest, rfl, huniform⟩ := uniform_of_mem_words hw
  obtain ⟨hwa, hall⟩ := plain_of_mem_words hascii hw
  refine ⟨if isNumeric c then .digit else .lower, by split <;> decide, ?_, ?_⟩
  · rw [lowercase_of_ascii hwa]
    exact quiet_flatMap_toLower hwa hall (List.forall_mem_cons.mpr ⟨rfl, huniform⟩)
  · rw [Ne, lowercase, (Respelled.lowercaseAfter [] _).eq_nil_iff]
    exact List.cons_ne_nil c rest

end

/-! ## Camel case of a request -/

theorem SameKind.all_isAlphanumeric {s t : List Char} (h : List.Forall₂ SameKind s t) :
    ∀ c ∈ t, isAlphanumeric c := by
  induction h with
  | nil => simp
  | cons hkind _ ih => exact List.forall_mem_cons.mpr ⟨isAlphanumeric_of_isAlphanum hkind.1, ih⟩

theorem settled_camelCase_iff {s : List Char} (h : IsAscii s) :
    Settled (camelCase s) ↔ InitialsApart (words s).tail := by
  have hall := SameKind.all_isAlphanumeric (sameKind_camelCase h)
  unfold camelCase at hall ⊢
  cases hs : words s with
  | nil => simp [Settled, InitialsApart]
  | cons first others =>
    have hfirst : first ∈ words s := hs ▸ List.mem_cons_self
    have hothers : ∀ w ∈ others, Capitalised w (capitalize w) := fun w hw =>
      capitalised_of_mem_words h (hs ▸ List.mem_cons_of_mem _ hw)
    obtain ⟨k, hk, hquiet, hne⟩ := lowercase_of_mem_words h hfirst
    rw [hs] at hall
    obtain ⟨c, rest, hlower⟩ := List.exists_cons_of_ne_nil hne
    simp only [hlower] at hall hquiet ⊢
    obtain ⟨⟨hc, hcLower⟩, hrest⟩ := List.forall_mem_cons.mp hquiet
    rw [List.cons_append, Settled, keptAfter_quiet hk hc hrest,
      keptAfter_flatMap_capitalize hothers, hc]
    simp [hk, hcLower]
    exact fun _ => by simpa using hall

/-! ## Numbers at the end -/

theorem plain_of_isDigit {c : Char} (h : c.isDigit) :
    isAlphanumeric c ∧ Kind.of c = .digit ∧ toUpper c = [c] ∧ toLower c = [c] := by
  have hplain : c.isDigit →
      isAlphanumeric c ∧ Kind.of c = .digit ∧ toUpper c = [c] ∧ toLower c = [c] := by
    apply ascii_forall _ (toNat_lt_of_isDigit h)
    decide +kernel
  exact hplain h

section
variable {digits : List Char} (h : ∀ c ∈ digits, c.isDigit)
include h

theorem keptAfter_digits (c : Char) : KeptAfter c digits := by
  induction digits generalizing c with
  | nil => trivial
  | cons d rest ih =>
    rw [List.forall_mem_cons] at h
    obtain ⟨-, -, hupper, hlower⟩ := plain_of_isDigit h.1
    rw [KeptAfter]
    exact ⟨by simp [hupper, hlower], ih h.2 d⟩

theorem settled_digits : Settled digits := by
  cases digits with
  | nil => trivial
  | cons c rest =>
    have hrest := keptAfter_digits (List.forall_mem_cons.mp h).2 c
    obtain ⟨-, -, -, hlower⟩ := plain_of_isDigit (h c List.mem_cons_self)
    exact ⟨fun d hd => (plain_of_isDigit (h d hd)).1, hlower, hrest⟩

/-- The last letter looks no further than to a small letter after it. -/
theorem breaksBetween_head?_append_digits (c d : Char) (u : List Char) :
    breaksBetween c d (u ++ digits).head? = breaksBetween c d u.head? := by
  cases u with
  | cons e u => rfl
  | nil =>
    cases digits with
    | nil => rfl
    | cons e rest =>
      obtain ⟨-, he, -, -⟩ := plain_of_isDigit (h e List.mem_cons_self)
      simp [breaksBetween, he]

theorem keptAfter_append_digits (c : Char) (u : List Char) :
    KeptAfter c (u ++ digits) ↔ KeptAfter c u := by
  induction u generalizing c with
  | nil => exact iff_of_true (keptAfter_digits h c) trivial
  | cons d u ih =>
    rw [List.cons_append, KeptAfter, breaksBetween_head?_append_digits h, ih, KeptAfter]

theorem settled_append_digits {u : List Char} (hne : u ≠ []) :
    Settled (u ++ digits) ↔ Settled u := by
  have hdigits : ∀ d ∈ digits, isAlphanumeric d := fun d hd => (plain_of_isDigit (h d hd)).1
  cases u with
  | nil => exact absurd rfl hne
  | cons c u =>
    rw [List.cons_append, Settled, Settled, keptAfter_append_digits h, ← List.cons_append,
      List.forall_mem_append, and_iff_left hdigits]

end

/-! ## Chosen names -/

theorem settled_defaultStem_append {digits : List Char} (h : digits.all Char.isDigit) :
    Settled (defaultStem ++ digits) := by
  have hstem : Settled defaultStem := camelCase_eq_self_iff.mp (by decide +kernel)
  exact (settled_append_digits (List.all_eq_true.mp h) (by decide)).mpr hstem

theorem settled_canonical_iff {requested : List Char} :
    Settled (canonical requested) ↔ Settled (camelCase requested) := by
  unfold canonical
  by_cases h : (camelCase requested).all Char.isDigit
  · rw [if_pos h]
    exact iff_of_true (settled_defaultStem_append h) (settled_digits (List.all_eq_true.mp h))
  · rw [if_neg h]

theorem settled_stem_iff {name : List Char} (h : name.all Char.isDigit = false) :
    Settled (splitSuffix name).1 ↔ Settled name := by
  rcases splitSuffix_cases name with ⟨-, hsplit⟩ | ⟨n, -, hsplit⟩
  · rw [hsplit]
  · have happ := settled_append_digits (List.all_eq_true.mp (all_trailingDigits name))
      (withoutDigits_ne_nil h)
    rw [withoutDigits_append_trailingDigits] at happ
    rw [hsplit, happ]

theorem settled_withSuffix_iff {stem : List Char} (hne : stem ≠ []) (n : Nat) :
    Settled (withSuffix stem n) ↔ Settled stem := by
  unfold withSuffix
  split
  · rfl
  · exact settled_append_digits (List.all_eq_true.mp (all_toDigits n)) hne

/-- Whether a chosen name is settled depends on its request alone. -/
theorem settled_uniqueName_iff (requested : String) (existing : List String) :
    Settled (uniqueName requested existing).toList ↔ Settled (camelCase requested.toList) := by
  have hcanonical := canonical_not_all_isDigit requested.toList
  obtain ⟨hne, -⟩ := splitSuffix_stem hcanonical
  unfold uniqueName
  rw [String.toList_ofList, settled_withSuffix_iff hne, settled_stem_iff hcanonical,
    settled_canonical_iff]

theorem canonical_eq_self_iff {name : List Char} (h : name.all Char.isDigit = false) :
    canonical name = name ↔ Settled name := by
  rw [← camelCase_eq_self_iff]
  unfold canonical
  by_cases hdigits : (camelCase name).all Char.isDigit
  · have hchanged : camelCase name ≠ name := by
      intro hsame
      rw [hsame, h] at hdigits
      cases hdigits
    refine iff_of_false (fun hname => hchanged ?_) hchanged
    rw [if_pos hdigits] at hname
    exact camelCase_eq_self_iff.mpr (hname ▸ settled_defaultStem_append hdigits)
  · rw [if_neg hdigits]

theorem uniqueName_nil_of_settled {name : String} (hsettled : Settled name.toList)
    (htidy : Tidy name.toList) (hname : name.toList.all Char.isDigit = false) :
    uniqueName name [] = name := by
  have hcanonical : canonical name.toList = name.toList := (canonical_eq_self_iff hname).mpr hsettled
  cases hsuffix : (splitSuffix name.toList).2 with
  | none =>
    rw [uniqueName_eq_self_iff_of_bare hcanonical hsuffix]
    exact .inl (by simp [suffixesInUse])
  | some n =>
    exact uniqueName_eq_self_of_numbered hcanonical htidy (by simp) hsuffix (by simp)

theorem uniqueName_not_all_isDigit (requested : String) (existing : List String) :
    (uniqueName requested existing).toList.all Char.isDigit = false := by
  have hstem : (splitSuffix (canonical requested.toList)).1.all Char.isDigit = false := by
    have hcanonical := canonical_not_all_isDigit requested.toList
    rcases splitSuffix_cases (canonical requested.toList) with ⟨-, hsplit⟩ | ⟨n, -, hsplit⟩
    · rwa [hsplit]
    · rw [hsplit]
      rwa [← withoutDigits_append_trailingDigits (canonical _), List.all_append,
        all_trailingDigits, Bool.and_true] at hcanonical
  unfold uniqueName
  rw [String.toList_ofList]
  unfold withSuffix
  split
  · exact hstem
  · rw [List.all_append, hstem, Bool.false_and]

/-- **Camel case of what is in camel case.** A text is left alone just if it is settled. What camel
case makes of an ASCII text is settled just if no two neighbouring words after the first are single
letters. A chosen name is settled just if the camel case of its request is; its canonical form is
the name itself then and only then, and it is kept on its way into an empty table. -/
theorem camelCase_camelCase_eq_iff (requested : String) :
    (∀ text, camelCase text = text ↔ Settled text) ∧
    (camelCase (camelCase requested.toList) = camelCase requested.toList ↔
      Settled (camelCase requested.toList)) ∧
    (IsAscii requested.toList →
      (Settled (camelCase requested.toList) ↔ InitialsApart (words requested.toList).tail)) ∧
    ∀ existing name, uniqueName requested existing = name →
      (canonical name.toList = name.toList ↔ Settled (camelCase requested.toList)) ∧
      (Settled (camelCase requested.toList) → uniqueName name [] = name) := by
  refine ⟨fun text => camelCase_eq_self_iff, camelCase_eq_self_iff, settled_camelCase_iff, ?_⟩
  intro existing name hchosen
  have hsettled := settled_uniqueName_iff requested existing
  have hname := uniqueName_not_all_isDigit requested existing
  have htidy := tidy_uniqueName requested existing
  rw [hchosen] at hsettled hname htidy
  rw [← hsettled]
  exact ⟨canonical_eq_self_iff hname, fun h => uniqueName_nil_of_settled h htidy hname⟩

theorem camelCase_camelCase_eq_iff_apart :
    IsAscii "x_b_cd_7_e".toList ∧ InitialsApart (words "x_b_cd_7_e".toList).tail ∧
      camelCase (camelCase "x_b_cd_7_e".toList) = camelCase "x_b_cd_7_e".toList ∧
      uniqueName "x_b_cd_7_e" ["xBCd7E"] = "xBCd7E2" ∧
      canonical "xBCd7E2".toList = "xBCd7E2".toList ∧ uniqueName "xBCd7E2" [] = "xBCd7E2" := by
  obtain ⟨-, htwice, hascii, hchosen⟩ := camelCase_camelCase_eq_iff "x_b_cd_7_e"
  have hplain : IsAscii "x_b_cd_7_e".toList := by decide
  have hapart : InitialsApart (words "x_b_cd_7_e".toList).tail := by decide +kernel
  have hname : uniqueName "x_b_cd_7_e" ["xBCd7E"] = "xBCd7E2" := by decide +kernel
  have hsettled := (hascii hplain).mpr hapart
  obtain ⟨hcanonical, hkept⟩ := hchosen _ _ hname
  exact ⟨hplain, hapart, htwice.mpr hsettled, hname, hcanonical.mpr hsettled, hkept hsettled⟩

/-- Single letters side by side become an acronym, and a table of one parameter does not keep its
name in an empty one. The small form of `İ` ends in a mark that is no part of a word. -/
theorem camelCase_makes_acronym :
    ¬ (∀ text, camelCase (camelCase text) = camelCase text) ∧
      (ParameterTable.empty.adopt ⟨⟨0⟩, "a_b_c", .null⟩).names = ["aBC"] ∧
      (ParameterTable.empty.merge
        (ParameterTable.empty.adopt ⟨⟨0⟩, "a_b_c", .null⟩)).names = ["aBc"] ∧
      camelCase "İ".toList = "i̇".toList ∧ camelCase "i̇".toList = "i".toList := by
  refine ⟨fun h => ?_, by decide +kernel, by decide +kernel, by decide +kernel, by decide +kernel⟩
  exact absurd (h "a_b_c".toList) (by decide +kernel)

end GraphQuery.Naming
