import GraphQuery.Unicode.Ranges

/-!
# White space

The property `White_Space`, and text without white space at its ends.
-/

namespace GraphQuery.Unicode

/-- Code points with the property `White_Space`, in ascending order. -/
def blankRanges : List (Nat × Nat) :=
  [(0x9, 0xD), (0x20, 0x20), (0x85, 0x85), (0xA0, 0xA0), (0x1680, 0x1680), (0x2000, 0x200A),
   (0x2028, 0x2029), (0x202F, 0x202F), (0x205F, 0x205F), (0x3000, 0x3000)]

def isBlank (c : Char) : Bool :=
  inRanges c.toNat blankRanges

theorem isBlank_of_isWhitespace {c : Char} (h : c.isWhitespace) : isBlank c := by
  simp only [Char.isWhitespace, Bool.or_eq_true, decide_eq_true_eq] at h
  rcases h with ((rfl | rfl) | rfl) | rfl <;> rfl

def hasBlankEnds (s : List Char) : Bool :=
  s.head?.any isBlank || s.getLast?.any isBlank

example : isBlank ' ' ∧ isBlank '\u00a0' ∧ isBlank '\u2028' ∧ ¬ isBlank '\u200b' := by
  decide +kernel

end GraphQuery.Unicode
