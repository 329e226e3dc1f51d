import GraphQuery.Proofs.Condition.Truth
import GraphQuery.Proofs.Parameter.Ledger

/-!
# What the text of a condition stores

Rendering a condition without comparators from elsewhere stores exactly the parameters that its
text mentions.
-/

namespace GraphQuery

theorem Operand.render_stores (name : String) (operand : Operand) (s : Scope) :
    s.Stores (operand.render name s).1.handles (operand.render name s).2 := by
  cases operand with
  | value v => exact s.allocate_stores v (some name)
  | reference text => exact s.stores_text text

/-- Not supplied by a caller. -/
def Comparator.IsBuiltIn : Comparator → Prop
  | .custom _ => False
  | _ => True

theorem Comparator.render_stores {c : Comparator} (hc : c.IsBuiltIn) (field : String) (s : Scope) :
    s.Stores (c.render field s).1.handles (c.render field s).2 := by
  cases c with
  | binary operator operand => exact (operand.render_stores _ s).text_append _
  | between lower upper lowerInclusive upperInclusive =>
    have hlow := lower.render_stores ("lower_" ++ parameterName field) s
    have hhigh := upper.render_stores ("upper_" ++ parameterName field)
      (lower.render ("lower_" ++ parameterName field) s).2
    unfold render
    simp only [Fragment.handles_append, Fragment.handles_text, List.nil_append, List.append_nil]
    exact hlow.append hhigh
  | hasLabel label => exact s.stores_text _
  | isPresent => exact s.stores_text _
  | isNull => exact s.stores_text _
  | custom render => exact hc.elim

namespace Condition

theorem handles_assemble (outer : Precedence) (connective : Connective) (parts : List Fragment) :
    (assemble outer connective parts).handles = parts.flatMap Fragment.handles := by
  unfold assemble
  split
  · simp [Fragment.parenthesized]
  · exact Fragment.handles_join ..

theorem render_stores (c : Condition) (hc : c.All Comparator.IsBuiltIn) :
    ∀ outer field (s : Scope),
      s.Stores (c.render outer field s).1.handles (c.render outer field s).2 := by
  induction c using childInduction (Q := fun children => AllIn Comparator.IsBuiltIn children →
    ∀ outer field (s : Scope),
      s.Stores ((renderChildren outer field children s).1.flatMap Fragment.handles)
        (renderChildren outer field children s).2) with
  | scalar value =>
    intro outer field s
    exact (s.allocate_stores value _).text_append _
  | compare comparator =>
    intro outer field s
    exact comparator.render_stores hc field s
  | junction connective children ih =>
    intro outer field s
    unfold render
    rw [handles_assemble]
    exact ih hc _ field s
  | not inner ih =>
    intro outer field s
    have hinner := ih hc .not field s
    unfold render
    by_cases htext : (inner.render .not field s).1.isEmpty
    · simp only [htext, if_true]
      exact hinner
    · simp only [htext]
      exact hinner.text_append "NOT "
  | nil _ outer field s => exact .refl s
  | cons key c rest ih ihrest hall outer field s =>
    rw [AllIn] at hall
    unfold renderChildren
    by_cases hempty : c.isEmpty
    · rw [if_pos hempty]
      exact ihrest hall.2 outer field s
    · have hfirst := ih hall.1 outer (joinField field key) s
      have hboth := hfirst.append
        (ihrest hall.2 outer field (render outer (joinField field key) c s).2)
      rw [if_neg hempty]
      -- a fragment without text, which is left out, has no handles either
      by_cases htext : (render outer (joinField field key) c s).1.isEmpty
      · rw [Fragment.isEmpty_iff.mp htext] at hboth
        simp only [htext, if_true]
        exact hboth
      · simp only [htext]
        exact hboth

end Condition

end GraphQuery
