import Mathlib.Data.List.TakeWhile

/-!
# Runs of items

A run of items that pass a test is cut off in full where an item follows that does not, or nothing.
-/

namespace GraphQuery.Text

variable {α : Type} {p : α → Bool} {s rest : List α}

/-- The first item, if there is one, does not pass a test. -/
def Stops (p : α → Bool) (s : List α) : Prop :=
  ∀ a ∈ s.head?, p a = false

theorem stops_nil : Stops p [] := by simp [Stops]

theorem stops_cons {a : α} : Stops p (a :: s) ↔ p a = false := by simp [Stops]

theorem stops_eq_cons [DecidableEq α] {a b : α} : Stops (· = b) (a :: s) ↔ a ≠ b := by
  simp [stops_cons]

theorem Stops.imp {q : α → Bool} (h : Stops p s) (hq : ∀ a, q a = true → p a = true) :
    Stops q s := by
  intro a ha
  apply Bool.eq_false_iff.mpr
  intro hqa
  have hpa := hq a hqa
  rw [h a ha] at hpa
  cases hpa

theorem Stops.append (hs : Stops p s) (hrest : Stops p rest) : Stops p (s ++ rest) := by
  cases s with
  | nil => exact hrest
  | cons a s => exact stops_cons.mpr (stops_cons.mp hs)

theorem stops_dropWhile (p : α → Bool) (s : List α) : Stops p (s.dropWhile p) := by
  intro a ha
  have hhead := List.head?_dropWhile_not p s
  rw [Option.mem_def.mp ha] at hhead
  exact hhead

theorem takeWhile_append_of_stops (hs : s.all p) (hrest : Stops p rest) :
    (s ++ rest).takeWhile p = s := by
  rw [List.takeWhile_append_of_pos (by simpa using hs)]
  cases rest with
  | nil => simp
  | cons a rest => simp [stops_cons.mp hrest]

theorem dropWhile_append_of_stops (hs : s.all p) (hrest : Stops p rest) :
    (s ++ rest).dropWhile p = rest := by
  rw [List.dropWhile_append_of_pos (by simpa using hs)]
  cases rest with
  | nil => rfl
  | cons a rest => simp [stops_cons.mp hrest]

end GraphQuery.Text
