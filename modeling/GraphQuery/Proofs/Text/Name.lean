import GraphQuery.Proofs.Text.Runs
import GraphQuery.Text.Identifier

/-!
# Reading a name

A name is read back from the way it is written, whatever characters it has: a bare one ends where
no identifier goes on, one between backticks at a backtick that is not doubled. A text that was put
in the place of a name as it is can be read back just if it is an identifier
(`readName?_append_eq_iff`).
-/

namespace GraphQuery.Text

/-- Reads a name up to the backtick that closes it. -/
def readBackticked? : List Char → Option (List Char × List Char)
  | [] => none
  | c :: rest =>
    if c = backtick then
      match rest with
      | [] => some ([], [])
      | d :: rest =>
        if d = backtick then (readBackticked? rest).map fun (name, rest) => (backtick :: name, rest)
        else some ([], d :: rest)
    else (readBackticked? rest).map fun (name, rest) => (c :: name, rest)

/-- Reads a name, bare or between backticks. -/
def readName? : List Char → Option (List Char × List Char)
  | [] => none
  | c :: rest =>
    if c = backtick then readBackticked? rest
    else if startsIdentifier c then
      some (c :: rest.takeWhile continuesIdentifier, rest.dropWhile continuesIdentifier)
    else none

/-- Whether a name is not over if a character follows. -/
def continuesToken (c : Char) : Bool :=
  continuesIdentifier c || c = backtick

variable {s rest : List Char}

theorem continuesIdentifier_of_starts {c : Char} (h : startsIdentifier c) :
    continuesIdentifier c := by
  simp only [startsIdentifier, Bool.or_eq_true] at h
  simp only [continuesIdentifier, Unicode.isAlphanumeric, Bool.or_eq_true]
  exact h.imp .inl id

theorem continuesIdentifier_of_isDigit {c : Char} (h : c.isDigit) : continuesIdentifier c := by
  simp only [Char.isDigit, Bool.and_eq_true, decide_eq_true_eq] at h
  have hlow : ¬ c.toNat < 0x30 := Nat.not_lt.mpr h.1
  have hhigh : c.toNat ≤ 0x39 := h.2
  have hdigit : Unicode.isDecimalDigit c := by
    rw [Unicode.isDecimalDigit, Unicode.decimalDigitRanges, Unicode.inRanges, if_neg hlow,
      if_pos hhigh]
  simp [continuesIdentifier, Unicode.isAlphanumeric, Unicode.isNumeric, hdigit]

theorem readBackticked?_cons {c : Char} (hc : c ≠ backtick) :
    readBackticked? (c :: rest) =
      (readBackticked? rest).map fun (name, rest) => (c :: name, rest) := by
  cases rest with
  | nil => simp [readBackticked?, hc]
  | cons d rest => simp [readBackticked?, hc]

theorem readBackticked?_doubleBackticks (hrest : Stops (· = backtick) rest) :
    readBackticked? (doubleBackticks s ++ backtick :: rest) = some (s, rest) := by
  induction s with
  | nil =>
    cases rest with
    | nil => rfl
    | cons d rest =>
      have hd : d ≠ backtick := stops_eq_cons.mp hrest
      simp [doubleBackticks, readBackticked?, hd]
  | cons c s ih =>
    unfold doubleBackticks at ih ⊢
    rw [List.flatMap_cons, List.append_assoc]
    by_cases hc : c = backtick
    · subst hc
      simp [readBackticked?, ih]
    · simp only [if_neg hc, List.singleton_append]
      rw [readBackticked?_cons hc, ih]
      rfl

theorem startsIdentifier_backtick : startsIdentifier backtick = false := by decide +kernel

theorem readName?_starts {c : Char} (hc : startsIdentifier c) (s : List Char) :
    readName? (c :: s) =
      some (c :: s.takeWhile continuesIdentifier, s.dropWhile continuesIdentifier) := by
  have hplain : c ≠ backtick := by
    rintro rfl
    rw [startsIdentifier_backtick] at hc
    cases hc
  rw [readName?, if_neg hplain, if_pos hc]

/-- **A written name is read back.** -/
theorem readName?_nameToken (hrest : Stops continuesToken rest) :
    readName? (nameToken s ++ rest) = some (s, rest) := by
  unfold nameToken
  by_cases hs : isIdentifier s
  · rw [if_pos hs]
    cases s with
    | nil => cases hs
    | cons c s =>
      simp only [isIdentifier, Bool.and_eq_true] at hs
      have hends : Stops continuesIdentifier rest :=
        hrest.imp fun c hc => by simp [continuesToken, hc]
      rw [List.cons_append, readName?_starts hs.1, takeWhile_append_of_stops hs.2 hends,
        dropWhile_append_of_stops hs.2 hends]
  · have hends : Stops (· = backtick) rest :=
      hrest.imp fun c hc => by simp [continuesToken, hc]
    rw [if_neg hs, List.cons_append, List.cons_append, List.append_assoc, readName?, if_pos rfl]
    exact readBackticked?_doubleBackticks hends

theorem readName?_none (h : Stops continuesToken s) : readName? s = none := by
  cases s with
  | nil => rfl
  | cons c s =>
    have hc := stops_cons.mp h
    simp only [continuesToken, Bool.or_eq_false_iff, decide_eq_false_iff_not] at hc
    have hstart : startsIdentifier c = false := by
      refine Bool.eq_false_iff.mpr fun hstarts => ?_
      rw [continuesIdentifier_of_starts hstarts] at hc
      cases hc.1
    rw [readName?, if_neg hc.2, hstart]
    rfl

theorem nameToken_starts (s : List Char) :
    ∃ c more, nameToken s = c :: more ∧ (c = backtick ∨ startsIdentifier c) := by
  unfold nameToken
  by_cases hs : isIdentifier s
  · rw [if_pos hs]
    cases s with
    | nil => cases hs
    | cons c s =>
      rw [isIdentifier, Bool.and_eq_true] at hs
      exact ⟨c, s, rfl, .inr hs.1⟩
  · rw [if_neg hs]
    exact ⟨backtick, _, rfl, .inl rfl⟩

/-! ## Text in the place of a name -/

theorem length_lt_of_readBackticked? {name : List Char} (h : readBackticked? s = some (name, rest)) :
    name.length + rest.length < s.length := by
  fun_induction readBackticked? s generalizing name with
  | case1 => cases h
  | case2 => cases h; decide
  | case3 more ih =>
    obtain ⟨⟨front, back⟩, hfront, hname⟩ := Option.map_eq_some_iff.mp h
    cases hname
    have hlt := ih hfront
    simp only [List.length_cons]
    omega
  | case4 => cases h; simp
  | case5 c more _ ih =>
    obtain ⟨⟨front, back⟩, hfront, hname⟩ := Option.map_eq_some_iff.mp h
    cases hname
    have hlt := ih hfront
    simp only [List.length_cons]
    omega

/-- **Only an identifier may be written as it is.** Any other text in the place of a name is not
read back as that name, whatever follows it. -/
theorem readName?_append_eq_iff (hrest : Stops continuesToken rest) :
    readName? (s ++ rest) = some (s, rest) ↔ isIdentifier s := by
  constructor
  · intro h
    cases s with
    | nil =>
      rw [List.nil_append, readName?_none hrest] at h
      cases h
    | cons c s =>
      rw [List.cons_append] at h
      by_cases hc : startsIdentifier c
      · rw [readName?_starts hc] at h
        have htake : (s ++ rest).takeWhile continuesIdentifier = s :=
          (List.cons.inj (Prod.mk.inj (Option.some.inj h)).1).2
        rw [isIdentifier, hc, Bool.true_and, ← htake]
        exact List.all_takeWhile
      · -- what is read between backticks is shorter than what it is read from
        rw [readName?] at h
        split at h
        · have hlt := length_lt_of_readBackticked? h
          simp only [List.length_cons, List.length_append] at hlt
          omega
        · cases h
  · intro h
    have htoken := readName?_nameToken (s := s) hrest
    rwa [nameToken, if_pos h] at htoken

theorem nameToken_eq_self_iff : nameToken s = s ↔ isIdentifier s := by
  constructor
  · intro h
    have htoken : readName? (nameToken s ++ []) = some (s, []) := readName?_nameToken stops_nil
    rw [h] at htoken
    exact (readName?_append_eq_iff stops_nil).mp htoken
  · exact fun h => if_pos h

/-- Of a text that begins like an identifier and is none, a part is left over after the name. -/
theorem exists_readName?_of_not_isIdentifier {c : Char} (hc : startsIdentifier c)
    (hs : isIdentifier (c :: s) = false) (rest : List Char) :
    ∃ name more, name ++ more = c :: s ∧ more ≠ [] ∧
      readName? (c :: s ++ rest) = some (name, more ++ rest) := by
  rw [isIdentifier, hc, Bool.true_and] at hs
  obtain ⟨d, hd, hplain⟩ := List.all_eq_false.mp hs
  have hsplit : s.takeWhile continuesIdentifier ++ s.dropWhile continuesIdentifier = s :=
    List.takeWhile_append_dropWhile
  have hleft := stops_dropWhile continuesIdentifier s
  generalize s.dropWhile continuesIdentifier = left at hsplit hleft
  cases left with
  | nil =>
    rw [List.append_nil, List.takeWhile_eq_self_iff] at hsplit
    exact absurd (hsplit d hd) hplain
  | cons e more =>
    have hstops : Stops continuesIdentifier (e :: more ++ rest) := stops_cons.mpr (stops_cons.mp hleft)
    refine ⟨c :: s.takeWhile continuesIdentifier, e :: more, by rw [List.cons_append, hsplit],
      List.cons_ne_nil e more, ?_⟩
    have hwhole : s ++ rest = s.takeWhile continuesIdentifier ++ (e :: more ++ rest) := by
      rw [← List.append_assoc, hsplit]
    rw [List.cons_append, readName?_starts hc, hwhole,
      takeWhile_append_of_stops List.all_takeWhile hstops,
      dropWhile_append_of_stops List.all_takeWhile hstops]

end GraphQuery.Text
