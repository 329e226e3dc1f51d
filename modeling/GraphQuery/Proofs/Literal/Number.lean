import GraphQuery.Json.Printer
import GraphQuery.Proofs.Naming.Fresh
import GraphQuery.Proofs.Text.Runs

/-!
# Reading a number

A number is written as digits, with a sign before them, a fraction and a power of ten where these
are needed. So its text is cut off in full where neither a digit nor a further part follows.
-/

namespace GraphQuery.Literal

open Json Json.Document Text

/-! ## Parts of a number -/

def IsDigits (s : List Char) : Prop :=
  s ≠ [] ∧ s.all Char.isDigit

/-- One of some signs, or none. -/
def IsSign (signs s : List Char) : Prop :=
  s = [] ∨ ∃ c ∈ signs, s = [c]

/-- Digits after a mark, with a sign between them or not, or nothing at all. -/
inductive IsPart (mark : Char) (signs : List Char) : List Char → Prop
  | missing : IsPart mark signs []
  | marked {sign digits} : IsSign signs sign → IsDigits digits →
      IsPart mark signs (mark :: (sign ++ digits))

def IsNumber (s : List Char) : Prop :=
  ∃ sign whole fraction power, s = sign ++ (whole ++ (fraction ++ power)) ∧
    IsSign ['-'] sign ∧ IsDigits whole ∧ IsPart '.' [] fraction ∧ IsPart 'e' ['+', '-'] power

/-! ## Reading -/

def readSign (signs : List Char) : List Char → List Char × List Char
  | [] => ([], [])
  | c :: rest => if c ∈ signs then ([c], rest) else ([], c :: rest)

def readPart? (mark : Char) (signs : List Char) : List Char → Option (List Char × List Char)
  | [] => some ([], [])
  | c :: rest =>
    if c = mark then
      (readDigits? (readSign signs rest).2).map fun (digits, after) =>
        (mark :: ((readSign signs rest).1 ++ digits), after)
    else some ([], c :: rest)

/-- Reads the text of a number. -/
def readNumber? (s : List Char) : Option (List Char × List Char) := do
  let (sign, s) := readSign ['-'] s
  let (whole, s) ← readDigits? s
  let (fraction, s) ← readPart? '.' [] s
  let (power, s) ← readPart? 'e' ['+', '-'] s
  return (sign ++ (whole ++ (fraction ++ power)), s)

variable {mark : Char} {signs sign digits part s rest : List Char}

theorem IsDigits.read (h : IsDigits digits) (hrest : Stops Char.isDigit rest) :
    readDigits? (digits ++ rest) = some (digits, rest) := by
  unfold readDigits?
  rw [takeWhile_append_of_stops h.2 hrest, dropWhile_append_of_stops h.2 hrest]
  cases digits with
  | nil => exact absurd rfl h.1
  | cons c digits => rfl

theorem IsDigits.stops_signs (h : IsDigits digits) (hsigns : signs.all fun c => !c.isDigit) :
    Stops (· ∈ signs) (digits ++ rest) := by
  obtain ⟨hne, hall⟩ := h
  cases digits with
  | nil => exact absurd rfl hne
  | cons c digits =>
    rw [List.cons_append, stops_cons, decide_eq_false_iff_not]
    intro hc
    have hsign : (!c.isDigit) = true := List.all_eq_true.mp hsigns c hc
    rw [Bool.not_eq_true'] at hsign
    rw [List.all_cons, hsign] at hall
    cases hall

theorem IsSign.read (h : IsSign signs sign) (hrest : Stops (· ∈ signs) rest) :
    readSign signs (sign ++ rest) = (sign, rest) := by
  rcases h with rfl | ⟨c, hc, rfl⟩
  · cases rest with
    | nil => rfl
    | cons c rest =>
      have hc : c ∉ signs := by simpa [stops_cons] using hrest
      simp [readSign, hc]
  · simp [readSign, hc]

theorem IsPart.stops {p : Char → Bool} (h : IsPart mark signs part) (hp : p mark = false)
    (hrest : Stops p rest) : Stops p (part ++ rest) := by
  cases h with
  | missing => exact hrest
  | marked => exact stops_cons.mpr hp

theorem IsPart.read (h : IsPart mark signs part) (hsigns : signs.all fun c => !c.isDigit)
    (hmark : Stops (· = mark) rest) (hrest : Stops Char.isDigit rest) :
    readPart? mark signs (part ++ rest) = some (part, rest) := by
  cases h with
  | missing =>
    cases rest with
    | nil => rfl
    | cons c rest =>
      have hc : c ≠ mark := stops_eq_cons.mp hmark
      simp [readPart?, hc]
  | marked hsign hdigits =>
    rw [List.cons_append, List.append_assoc, readPart?, if_pos rfl,
      hsign.read (hdigits.stops_signs hsigns), hdigits.read hrest]
    rfl

/-- What may stand after a number. -/
structure EndsNumber (rest : List Char) : Prop where
  digit : Stops Char.isDigit rest
  point : Stops (· = '.') rest
  power : Stops (· = 'e') rest

theorem IsNumber.read (h : IsNumber s) (hrest : EndsNumber rest) :
    readNumber? (s ++ rest) = some (s, rest) := by
  obtain ⟨sign, whole, fraction, power, rfl, hsign, hwhole, hfraction, hpower⟩ := h
  have hdigit : Stops Char.isDigit (power ++ rest) := hpower.stops (by decide) hrest.digit
  have hpoint : Stops (· = '.') (power ++ rest) := hpower.stops (by decide) hrest.point
  have hminus : Stops (· ∈ ['-']) (whole ++ (fraction ++ (power ++ rest))) :=
    hwhole.stops_signs (by decide)
  have hafter : Stops Char.isDigit (fraction ++ (power ++ rest)) :=
    hfraction.stops (by decide) hdigit
  unfold readNumber?
  simp only [List.append_assoc, hsign.read hminus, hwhole.read hafter,
    hfraction.read (by decide) hpoint hdigit, hpower.read (by decide) hrest.power hrest.digit,
    Option.bind_eq_bind, Option.bind_some]
  rfl

theorem IsNumber.starts (h : IsNumber s) : ∃ c more, s = c :: more ∧ (c = '-' ∨ c.isDigit) := by
  obtain ⟨sign, whole, fraction, power, rfl, hsign, ⟨hne, hall⟩, -, -⟩ := h
  rcases hsign with rfl | ⟨c, hc, rfl⟩
  · cases whole with
    | nil => exact absurd rfl hne
    | cons c whole =>
      rw [List.all_cons, Bool.and_eq_true] at hall
      exact ⟨c, _, rfl, .inr hall.1⟩
  · exact ⟨c, _, rfl, .inl (List.mem_singleton.mp hc)⟩

/-! ## The text of a number -/

theorem isDigits_toDigits (n : Nat) : IsDigits (Nat.toDigits 10 n) :=
  ⟨Nat.toDigits_ne_nil, Naming.all_toDigits n⟩

theorem isNumber_signed {whole fraction power : List Char} (hwhole : IsDigits whole)
    (hfraction : IsPart '.' [] fraction) (hpower : IsPart 'e' ['+', '-'] power) (negative : Bool) :
    IsNumber (if negative then '-' :: (whole ++ (fraction ++ power))
      else whole ++ (fraction ++ power)) := by
  cases negative with
  | false => exact ⟨[], whole, fraction, power, rfl, .inl rfl, hwhole, hfraction, hpower⟩
  | true =>
    exact ⟨['-'], whole, fraction, power, rfl, .inr ⟨'-', by simp, rfl⟩, hwhole, hfraction, hpower⟩

theorem isNumber_intText (n : Int) : IsNumber (intText n) := by
  have hdigits := isNumber_signed (isDigits_toDigits n.natAbs) .missing .missing (decide (n < 0))
  simpa [intText] using hdigits

section
open Decimal

variable {t : List Char}

theorem IsDigits.of_subset (h : IsDigits digits) (hne : t ≠ []) (hsub : t ⊆ digits) :
    IsDigits t := by
  refine ⟨hne, ?_⟩
  rw [List.all_eq_true]
  exact fun c hc => List.all_eq_true.mp h.2 c (hsub hc)

theorem isDigits_append (hne : s ++ t ≠ []) (hs : s.all Char.isDigit) (ht : t.all Char.isDigit) :
    IsDigits (s ++ t) := by
  refine ⟨hne, ?_⟩
  rw [List.all_append, hs, ht]
  rfl

theorem all_replicate_zero (n : Nat) : (List.replicate n '0').all Char.isDigit := by simp

theorem positionalText_parts (h : IsDigits digits) (scale : Int) :
    ∃ whole fraction, Layout.compact.positionalText digits scale = whole ++ fraction ∧
      IsDigits whole ∧ IsPart '.' [] fraction := by
  unfold Layout.positionalText
  by_cases hscale : 0 ≤ scale
  · rw [if_pos hscale]
    refine ⟨digits ++ List.replicate scale.toNat '0', ['.', '0'], rfl, ?_, ?_⟩
    · exact isDigits_append (by simp [h.1]) h.2 (all_replicate_zero _)
    · exact .marked (.inl rfl) ⟨by simp, by decide⟩
  · rw [if_neg hscale]
    let places := (-scale).toNat
    let padded := List.replicate (places + 1 - digits.length) '0' ++ digits
    have hpadded : IsDigits padded := isDigits_append (by simp [h.1]) (all_replicate_zero _) h.2
    have hlength : places < padded.length := by
      simp only [padded, List.length_append, List.length_replicate]
      omega
    have hplaces : 0 < places := by omega
    refine ⟨padded.take (padded.length - places), '.' :: padded.drop (padded.length - places),
      rfl, ?_, ?_⟩
    · refine hpadded.of_subset ?_ (List.take_subset _ _)
      rw [Ne, List.take_eq_nil_iff]
      exact not_or.mpr ⟨by omega, hpadded.1⟩
    · refine .marked (.inl rfl) (hpadded.of_subset ?_ (List.drop_subset _ _))
      rw [Ne, List.drop_eq_nil_iff]
      omega

theorem exponentText_parts (h : IsDigits digits) (scale : Int) :
    ∃ whole fraction power, Layout.exponentText digits scale = whole ++ (fraction ++ power) ∧
      IsDigits whole ∧ IsPart '.' [] fraction ∧ IsPart 'e' ['+', '-'] power := by
  let weight := scale + digits.length - 1
  let sign := if weight < 0 then '-' else '+'
  have hsign : IsSign ['+', '-'] [sign] := by
    refine .inr ⟨sign, ?_, rfl⟩
    by_cases hweight : weight < 0 <;> simp [sign, hweight]
  refine ⟨digits.take 1, if digits.length ≤ 1 then [] else '.' :: digits.drop 1,
    'e' :: ([sign] ++ Nat.toDigits 10 weight.natAbs), ?_, ?_, ?_, ?_⟩
  · rw [← List.append_assoc]
    rfl
  · refine h.of_subset ?_ (List.take_subset _ _)
    simp [List.take_eq_nil_iff, h.1]
  · by_cases hlength : digits.length ≤ 1
    · rw [if_pos hlength]
      exact .missing
    · rw [if_neg hlength]
      refine .marked (.inl rfl) (h.of_subset ?_ (List.drop_subset _ _))
      rw [Ne, List.drop_eq_nil_iff]
      exact hlength
  · exact .marked hsign (isDigits_toDigits _)

theorem isNumber_layoutText (x : Binary64) : IsNumber (Layout.compact.text x) := by
  let shortest := x.shortest Layout.compact.tie
  let digits := Nat.toDigits 10 shortest.coefficient
  let magnitude :=
    if Layout.compact.positional (shortest.scale + digits.length - 1) then
      Layout.compact.positionalText digits shortest.scale
    else Layout.exponentText digits shortest.scale
  have hdigits : IsDigits digits := isDigits_toDigits shortest.coefficient
  obtain ⟨whole, fraction, power, hmagnitude, hwhole, hfraction, hpower⟩ :
      ∃ whole fraction power, magnitude = whole ++ (fraction ++ power) ∧
        IsDigits whole ∧ IsPart '.' [] fraction ∧ IsPart 'e' ['+', '-'] power := by
    unfold magnitude
    split
    · obtain ⟨whole, fraction, htext, hwhole, hfraction⟩ :=
        positionalText_parts hdigits shortest.scale
      exact ⟨whole, fraction, [], by rw [htext, List.append_nil], hwhole, hfraction, .missing⟩
    · exact exponentText_parts hdigits shortest.scale
  show IsNumber (if x.negative then '-' :: magnitude else magnitude)
  rw [hmagnitude]
  exact isNumber_signed hwhole hfraction hpower x.negative

/-- **Every number has a text that is read in full.** -/
theorem isNumber_text (n : Number) : IsNumber n.text := by
  cases n with
  | int n => exact isNumber_intText n
  | float x => exact isNumber_layoutText x

end

end GraphQuery.Literal
