import GraphQuery.Proofs.Condition.Stores
import GraphQuery.Proofs.Parameter.Pairing

/-!
# Conditions without their values

`Condition.blank` takes every stored value out of a condition. The text of the condition keeps its
skeleton, and the parameters that it stores keep their names (`same_render_blank`).
-/

namespace GraphQuery

/-- Texts that are the same but for handles, over tables that have the same names. -/
structure SameText (r r' : Fragment × Scope) : Prop where
  skeleton : r.1.skeleton = r'.1.skeleton
  names : r.2.table.names = r'.2.table.names

variable {s t : Scope}

theorem SameText.text_append {r r' : Fragment × Scope} (h : SameText r r') (text : String) :
    SameText (.text text ++ r.1, r.2) (.text text ++ r'.1, r'.2) where
  skeleton := by simp [h.skeleton]
  names := h.names

def Operand.blank : Operand → Operand
  | .value _ => .value .null
  | .reference text => .reference text

theorem Operand.same_render_blank (name : String) (operand : Operand)
    (h : s.table.names = t.table.names) :
    SameText (operand.render name s) (operand.blank.render name t) := by
  cases operand with
  | value v => exact ⟨rfl, Scope.names_allocate_eq h v .null rfl⟩
  | reference text => exact ⟨rfl, h⟩

namespace Comparator

def blank : Comparator → Comparator
  | .binary operator operand => .binary operator operand.blank
  | .between lower upper lowerInclusive upperInclusive =>
    .between lower.blank upper.blank lowerInclusive upperInclusive
  | c => c

theorem isBuiltIn_blank {c : Comparator} : c.blank.IsBuiltIn ↔ c.IsBuiltIn := by
  cases c <;> rfl

theorem same_render_blank {c : Comparator} (hc : c.IsBuiltIn) (field : String)
    (h : s.table.names = t.table.names) :
    SameText (c.render field s) (c.blank.render field t) := by
  cases c with
  | binary operator operand => exact (operand.same_render_blank _ h).text_append _
  | between lower upper lowerInclusive upperInclusive =>
    have hlow := lower.same_render_blank ("lower_" ++ parameterName field) h
    have hhigh := upper.same_render_blank ("upper_" ++ parameterName field) hlow.names
    refine ⟨?_, hhigh.names⟩
    simp [render, blank, hlow.skeleton, hhigh.skeleton]
  | hasLabel label => exact ⟨rfl, h⟩
  | isPresent => exact ⟨rfl, h⟩
  | isNull => exact ⟨rfl, h⟩
  | custom render => exact hc.elim

end Comparator

namespace Condition

mutual

def blank : Condition → Condition
  | .scalar _ => .scalar .null
  | .compare c => .compare c.blank
  | .junction connective children => .junction connective (blankAll children)
  | .not inner => .not inner.blank

def blankAll : List (String × Condition) → List (String × Condition)
  | [] => []
  | (key, c) :: rest => (key, c.blank) :: blankAll rest

end

theorem blankAll_eq (children : List (String × Condition)) :
    blankAll children = children.map fun child => (child.1, child.2.blank) := by
  induction children with
  | nil => rfl
  | cons child rest ih => rw [blankAll, ih, List.map_cons]

theorem all_blank_iff (c : Condition) :
    c.blank.All Comparator.IsBuiltIn ↔ c.All Comparator.IsBuiltIn := by
  induction c using treeInduction with
  | scalar v => rfl
  | compare k => exact Comparator.isBuiltIn_blank
  | junction k children ih =>
    rw [blank, blankAll_eq, All, All, allIn_iff, allIn_iff, List.forall_mem_map]
    exact forall₂_congr ih
  | not inner ih => exact ih

/-! ## What is left out, and brackets -/

@[simp] theorem isEmpty_blank (c : Condition) : c.blank.isEmpty = c.isEmpty := by
  induction c using childInduction
    (Q := fun children => allEmpty (blankAll children) = allEmpty children) with
  | scalar v => rfl
  | compare k => rfl
  | junction k children ih => exact ih
  | not inner ih => exact ih
  | nil => rfl
  | cons key c rest ih ihrest => rw [blankAll, allEmpty, allEmpty, ih, ihrest]

theorem childPrecedence_blankAll (outer : Precedence) (connective : Connective)
    (children : List (String × Condition)) :
    childPrecedence outer connective (blankAll children) =
      childPrecedence outer connective children := by
  have hlive : (live (blankAll children)).length = (live children).length := by
    rw [blankAll_eq, live, List.filter_map, List.length_map, live]
    simp only [Function.comp_def, isEmpty_blank]
  unfold childPrecedence
  rw [hlive]

theorem skeleton_assemble (outer : Precedence) (connective : Connective) (parts : List Fragment) :
    (assemble outer connective parts).skeleton =
      assemble outer connective (parts.map Fragment.skeleton) := by
  unfold assemble
  rw [List.length_map]
  split
  · simp [Fragment.parenthesized]
  · exact Fragment.skeleton_join ..

/-! ## The text -/

theorem same_render_blank (c : Condition) (hc : c.All Comparator.IsBuiltIn) :
    ∀ outer field (s t : Scope), s.table.names = t.table.names →
      SameText (c.render outer field s) (c.blank.render outer field t) := by
  induction c using childInduction (Q := fun children => AllIn Comparator.IsBuiltIn children →
    ∀ outer field (s t : Scope), s.table.names = t.table.names →
      (renderChildren outer field children s).1.map Fragment.skeleton =
          (renderChildren outer field (blankAll children) t).1.map Fragment.skeleton ∧
        (renderChildren outer field children s).2.table.names =
          (renderChildren outer field (blankAll children) t).2.table.names) with
  | scalar v =>
    intro outer field s t h
    have hstored : SameText (Operand.render (Comparator.parameterName field) (.value v) s)
        (Operand.render (Comparator.parameterName field) (.value .null) t) :=
      Operand.same_render_blank _ (.value v) h
    exact hstored.text_append _
  | compare k => exact fun outer field s t h => k.same_render_blank hc field h
  | junction k children ih =>
    intro outer field s t h
    have hparts := ih hc (childPrecedence outer k children) field s t h
    rw [blank, render, render, childPrecedence_blankAll]
    refine ⟨?_, hparts.2⟩
    rw [skeleton_assemble, skeleton_assemble, hparts.1]
  | not inner ih =>
    intro outer field s t h
    have hinner := ih hc .not field s t h
    rw [blank, render, render]
    simp only [Fragment.isEmpty_eq_of_skeleton hinner.skeleton]
    split
    · exact hinner
    · exact hinner.text_append "NOT "
  | nil _ outer field s t h => exact ⟨rfl, h⟩
  | cons key c rest ih ihrest hall outer field s t h =>
    rw [AllIn] at hall
    rw [blankAll, renderChildren, renderChildren, isEmpty_blank]
    by_cases hempty : c.isEmpty
    · rw [if_pos hempty, if_pos hempty]
      exact ihrest hall.2 outer field s t h
    · rw [if_neg hempty, if_neg hempty]
      have hfirst := ih hall.1 outer (joinField field key) s t h
      obtain ⟨hskeletons, hnames⟩ := ihrest hall.2 outer field _ _ hfirst.names
      refine ⟨?_, hnames⟩
      simp only [Fragment.isEmpty_eq_of_skeleton hfirst.skeleton]
      split
      · exact hskeletons
      · rw [List.map_cons, List.map_cons, hfirst.skeleton, hskeletons]

end Condition

end GraphQuery
