/-!
# Tables over the code space

A character property is a list of closed ranges of code points, a case mapping a list of shifts.
Both are in ascending order, so a search stops at the first entry above the code point.
-/

namespace GraphQuery.Unicode

/-- Whether `n` lies in one of the closed ranges, which are disjoint and in ascending order. -/
def inRanges (n : Nat) : List (Nat × Nat) → Bool
  | [] => false
  | (lo, hi) :: rest => if n < lo then false else if n ≤ hi then true else inRanges n rest

/-- A number that a search finds lies between the ends of some listed range. -/
theorem exists_of_inRanges {n : Nat} {ranges : List (Nat × Nat)} (h : inRanges n ranges) :
    ∃ r ∈ ranges, r.1 ≤ n ∧ n ≤ r.2 := by
  induction ranges with
  | nil => simp [inRanges] at h
  | cons r rest ih =>
    simp only [inRanges] at h
    split at h
    · simp at h
    · split at h
      · exact ⟨r, by simp, by omega, by omega⟩
      · obtain ⟨q, hq, hn⟩ := ih h
        exact ⟨q, by simp [hq], hn⟩

/-- A stretch of the code space that a case mapping moves by one distance: every `step`-th code
point from `first` to `last`, where `first` goes to `image`. -/
structure Shift where
  first : Nat
  last : Nat
  step : Nat
  image : Nat
deriving DecidableEq, Repr

/-- Where a mapping takes `n`; the shifts are disjoint and in ascending order. -/
def Shift.image? (n : Nat) : List Shift → Option Nat
  | [] => none
  | s :: rest =>
    if n < s.first then none
    else if n ≤ s.last then
      if (n - s.first) % s.step = 0 then some (s.image + (n - s.first)) else none
    else Shift.image? n rest

end GraphQuery.Unicode
