import GraphQuery.Proofs.Condition.Level
import GraphQuery.Query

/-!
# Children that write nothing

A comparator from elsewhere may store nothing and write nothing, and still counts as a live child.
With it in the group, a sole other child is rendered at the level of the group's connective; without
it, at the level of the surroundings. `render_filled_eq_vacant_iff`: leaving such a child out changes
nothing if and only if these two levels agree on the brackets of that other child.
-/

namespace GraphQuery

theorem Fragment.sizes_parts (f : Fragment) : sizes f.parts = f.size := by
  by_cases hf : f.isEmpty = true
  · rw [isEmpty_iff.mp hf]
    rfl
  · simp [parts, hf, sizes]

theorem Condition.size_assemble (outer : Precedence) (k : Connective) (parts : List Fragment) :
    (assemble outer k parts).size =
      Fragment.sizes parts + (parts.length - 1) * k.separator.length +
        if 2 ≤ parts.length ∧ k.precedence.rank < outer.rank then 2 else 0 := by
  rw [assemble]
  split
  · rw [Fragment.size_parenthesized, Fragment.size_join]
  · rw [Fragment.size_join, Nat.add_zero]

/-- Two results that agree if and only if `b`; otherwise one of the texts is longer. -/
structure AgreeIff (b : Bool) (r r' : Fragment × Scope) : Prop where
  scope : r.2 = r'.2
  isEmpty : r.1.isEmpty = r'.1.isEmpty
  same : b = true → r.1 = r'.1
  apart : b = false → r.1.size ≠ r'.1.size

namespace AgreeIff

variable {b : Bool} {r r' : Fragment × Scope}

theorem of_eq (h : r = r') : AgreeIff true r r' := by
  subst h
  exact ⟨rfl, rfl, fun _ => rfl, fun h => absurd h (by decide)⟩

theorem text_eq_iff (h : AgreeIff b r r') : r.1 = r'.1 ↔ b = true := by
  refine ⟨fun heq => ?_, h.same⟩
  rw [← Bool.not_eq_false]
  exact fun hb => h.apart hb (congrArg Fragment.size heq)

theorem negated (h : AgreeIff b r r') :
    AgreeIff b (if r.1.isEmpty then r.1 else .text "NOT " ++ r.1, r.2)
      (if r'.1.isEmpty then r'.1 else .text "NOT " ++ r'.1, r'.2) := by
  refine ⟨h.scope, ?_, fun hb => ?_, fun hb => ?_⟩
  · simp only [← h.isEmpty]
    split
    · exact h.isEmpty
    · rw [Fragment.isEmpty_text_append (by decide), Fragment.isEmpty_text_append (by decide)]
  · rw [h.same hb]
  · have hsize := h.apart hb
    simp only [← h.isEmpty]
    split
    · exact hsize
    · simpa using hsize

theorem length_parts (h : AgreeIff b r r') : r.1.parts.length = r'.1.parts.length := by
  unfold Fragment.parts
  rw [h.isEmpty]
  split <;> rfl

theorem assembled (h : AgreeIff b r r') (outer : Precedence) (k : Connective)
    {before after : List Fragment} (hbefore : ∀ f ∈ before, f.isEmpty = false)
    (hafter : ∀ f ∈ after, f.isEmpty = false) (s : Scope) :
    AgreeIff b (Condition.assemble outer k (before ++ (r.1.parts ++ after)), s)
      (Condition.assemble outer k (before ++ (r'.1.parts ++ after)), s) := by
  have hparts : ∀ g : Fragment, ∀ f ∈ before ++ (g.parts ++ after), f.isEmpty = false := by
    intro g f hf
    rcases List.mem_append.mp hf with hf | hf
    · exact hbefore f hf
    · rcases List.mem_append.mp hf with hf | hf
      · exact Fragment.isEmpty_of_mem_parts hf
      · exact hafter f hf
  have hlength : (before ++ (r.1.parts ++ after)).length = (before ++ (r'.1.parts ++ after)).length := by
    simp only [List.length_append, h.length_parts]
  refine ⟨rfl, ?_, fun hb => by rw [h.same hb], fun hb => ?_⟩
  · rw [Condition.isEmpty_assemble (hparts _), Condition.isEmpty_assemble (hparts _),
      Bool.eq_iff_iff, List.isEmpty_iff_length_eq_zero, List.isEmpty_iff_length_eq_zero, hlength]
  · have hsize := h.apart hb
    simp only [Condition.size_assemble, hlength, Fragment.sizes_append, Fragment.sizes_parts]
    omega

end AgreeIff

namespace Condition

theorem agree_levels (c : Condition) (p q : Precedence) (field : String) (s : Scope) :
    AgreeIff (c.bracketed p field s == c.bracketed q field s) (c.render p field s)
      (c.render q field s) := by
  refine ⟨?_, ?_, ?_, ?_⟩
  · rw [render_eq_bracketed c p, render_eq_bracketed c q]
  · rw [isEmpty_render_eq c p, isEmpty_render_eq c q]
  · intro h
    rw [render_eq_bracketed c p, render_eq_bracketed c q, eq_of_beq h]
  · intro h
    rw [render_eq_bracketed c p, render_eq_bracketed c q]
    cases hp : c.bracketed p field s <;> cases hq : c.bracketed q field s <;>
      simp [hp, hq, Fragment.size_parenthesized] at h ⊢

/-- Whether a sole live child of a junction is bracketed at the level of the connective just when it
is in the surroundings. -/
def loneKeepsBrackets (k : Connective) (outer : Precedence) (field : String) (s : Scope)
    (children : List (String × Condition)) : Bool :=
  match live children with
  | [child] =>
    child.2.bracketed k.precedence (joinField field child.1) s ==
      child.2.bracketed outer (joinField field child.1) s
  | _ => true

/-- Live and without effect wherever it is rendered. -/
structure Silent (c : Condition) : Prop where
  isEmpty : c.isEmpty = false
  render : ∀ outer field s, c.render outer field s = (.empty, s)

theorem live_eq_singleton {child : String × Condition} (hchild : child.2.isEmpty = false)
    {before after : List (String × Condition)} (h : live (before ++ after) = []) :
    live (before ++ child :: after) = [child] := by
  obtain ⟨hbefore, hafter⟩ := List.append_eq_nil_iff.mp ((live_append ..).symm.trans h)
  rw [live_append, live_cons_of_not_isEmpty hchild, hbefore, hafter]
  rfl

theorem renderChildren_silent {child : String × Condition} (h : child.2.Silent) (outer : Precedence)
    (field : String) (before after : List (String × Condition)) (s : Scope) :
    renderChildren outer field (before ++ child :: after) s =
      renderChildren outer field (before ++ after) s := by
  simp only [renderChildren_append, renderChildren_cons, h.render]
  rfl

theorem agree_without {child : String × Condition} (h : child.2.Silent) (k : Connective)
    (before after : List (String × Condition)) (outer : Precedence) (field : String) (s : Scope) :
    AgreeIff (loneKeepsBrackets k outer field s (before ++ after))
      ((junction k (before ++ child :: after)).render outer field s)
      ((junction k (before ++ after)).render outer field s) := by
  have hlength : (live (before ++ child :: after)).length = (live (before ++ after)).length + 1 := by
    simp [live_cons_of_not_isEmpty h.isEmpty]
    omega
  unfold loneKeepsBrackets
  -- the child makes a difference only if it brings the live children from one to two
  match hlive : live (before ++ after) with
  | [] =>
    refine .of_eq ?_
    rw [render_junction_of_lone (live_eq_singleton h.isEmpty hlive), h.render,
      render_junction_of_none hlive]
  | [other] =>
    have htwo : 2 ≤ (live (before ++ child :: after)).length := by rw [hlength, hlive]; simp
    rw [render_junction_of_two htwo, renderChildren_silent h, ← renderChildren_live, hlive,
      renderChildren_cons, render_junction_of_lone hlive]
    simp only [renderChildren, List.append_nil, Fragment.join_parts,
      assemble_of_length_lt_two (Fragment.length_parts_lt_two _)]
    exact other.2.agree_levels _ _ _ s
  | c₁ :: c₂ :: rest =>
    refine .of_eq ?_
    have htwo : 2 ≤ (live (before ++ after)).length := by rw [hlive]; simp
    rw [render_junction_of_two htwo, render_junction_of_two (by omega), renderChildren_silent h]

end Condition

/-- A place for a child in a group that stands anywhere in a condition. -/
inductive Place
  | here (k : Connective) (before after : List (String × Condition))
  | deeper (k : Connective) (before : List (String × Condition)) (key : String) (place : Place)
      (after : List (String × Condition))
  | not (place : Place)

namespace Place

open Condition

def filled (child : String × Condition) : Place → Condition
  | .here k before after => .junction k (before ++ child :: after)
  | .deeper k before key place after => .junction k (before ++ (key, place.filled child) :: after)
  | .not place => .not (place.filled child)

def vacant : Place → Condition
  | .here k before after => .junction k (before ++ after)
  | .deeper k before key place after => .junction k (before ++ (key, place.vacant) :: after)
  | .not place => .not place.vacant

/-- Whether all brackets stay when a child that writes nothing leaves the place. A group that is
empty without the child is as good as the child itself. -/
def keepsBrackets (outer : Precedence) (field : String) (s : Scope) : Place → Bool
  | .here k before after => loneKeepsBrackets k outer field s (before ++ after)
  | .deeper k before key place after =>
    if place.vacant.isEmpty then loneKeepsBrackets k outer field s (before ++ after)
    else
      let level := childPrecedence outer k (before ++ (key, place.vacant) :: after)
      place.keepsBrackets level (joinField field key) (renderChildren level field before s).2
  | .not place => place.keepsBrackets .not field s

section
variable {child : String × Condition}

theorem isEmpty_filled (h : child.2.isEmpty = false) (place : Place) :
    (place.filled child).isEmpty = false := by
  induction place with
  | here k before after =>
    rw [filled, isEmpty, allEmpty_eq]
    simp [h]
  | deeper k before key place after ih =>
    rw [filled, isEmpty, allEmpty_eq]
    simp [ih]
  | not place ih => exact ih

/-- A group that is empty without a silent child is silent with it. -/
theorem silent_filled (h : child.2.Silent) {place : Place} (hempty : place.vacant.isEmpty = true) :
    (place.filled child).Silent := by
  refine ⟨place.isEmpty_filled h.isEmpty, ?_⟩
  induction place with
  | here k before after =>
    intro outer field s
    rw [vacant, isEmpty, ← live_eq_nil_iff] at hempty
    rw [filled, render_junction_of_lone (live_eq_singleton h.isEmpty hempty), h.render]
  | deeper k before key place after ih =>
    intro outer field s
    simp only [vacant, isEmpty, allEmpty_eq, List.all_append, List.all_cons,
      Bool.and_eq_true] at hempty
    obtain ⟨hbefore, hplace, hafter⟩ := hempty
    have hnone : live (before ++ after) = [] := by
      rw [live_eq_nil_iff, allEmpty_eq, List.all_append, hbefore, hafter]
      rfl
    have hfilled : (key, place.filled child).2.isEmpty = false := place.isEmpty_filled h.isEmpty
    rw [filled, render_junction_of_lone (live_eq_singleton hfilled hnone), ih hplace]
  | not place ih =>
    intro outer field s
    rw [filled, render, ih hempty]
    rfl

theorem agree_filled (h : child.2.Silent) (place : Place) : ∀ outer field s,
    AgreeIff (place.keepsBrackets outer field s) ((place.filled child).render outer field s)
      (place.vacant.render outer field s) := by
  induction place with
  | here k before after => exact agree_without h k before after
  | deeper k before key place after ih =>
    intro outer field s
    rw [keepsBrackets, filled, vacant]
    by_cases hempty : place.vacant.isEmpty = true
    · -- without the child the whole group below is gone, so with it the group is the silent child
      have hsilent : (key, place.filled child).2.Silent := silent_filled h hempty
      have hlive : live (before ++ (key, place.vacant) :: after) = live (before ++ after) := by
        rw [live_append, live_append, live_cons_of_isEmpty hempty]
      rw [if_pos hempty, render_junction_of_live_eq hlive]
      exact agree_without hsilent k before after outer field s
    · -- the group below stays live, so its siblings and its level do not notice
      rw [if_neg hempty]
      have hfilled : (key, place.filled child).2.isEmpty = false := place.isEmpty_filled h.isEmpty
      have hvacant : (key, place.vacant).2.isEmpty = false := Bool.eq_false_iff.mpr hempty
      have hlevel : childPrecedence outer k (before ++ (key, place.filled child) :: after) =
          childPrecedence outer k (before ++ (key, place.vacant) :: after) := by
        unfold childPrecedence
        rw [live_append, live_append, live_cons_of_not_isEmpty hfilled, live_cons_of_not_isEmpty hvacant]
        simp only [List.length_append, List.length_cons]
      rw [render, render, hlevel]
      simp only [renderChildren_append, renderChildren_cons]
      generalize childPrecedence outer k (before ++ (key, place.vacant) :: after) = level
      have hplace := ih level (joinField field key) (renderChildren level field before s).2
      rw [hplace.scope]
      exact hplace.assembled outer k (fun f hf => isEmpty_of_mem_renderChildren hf)
        (fun f hf => isEmpty_of_mem_renderChildren hf) _
  | not place ih =>
    intro outer field s
    exact (ih .not field s).negated

end

/-- **A child that writes nothing is as if absent unless it decides about brackets.** Leaving out a
comparator that stores nothing and writes nothing never changes what is stored. It leaves the text as
it is if and only if a live child that is alone without it is bracketed at the level of its group just
when it is bracketed at the level of the surroundings. -/
theorem render_filled_eq_vacant_iff {render : String → Scope → Fragment × Scope}
    (hsilent : ∀ field s, render field s = (.empty, s)) (key : String) (place : Place)
    (outer : Precedence) (field : String) (s : Scope) :
    let child := (key, Condition.compare (.custom render))
    ((place.filled child).render outer field s).2 = (place.vacant.render outer field s).2 ∧
      (((place.filled child).render outer field s).1 = (place.vacant.render outer field s).1 ↔
        place.keepsBrackets outer field s = true) := by
  have hchild : (key, Condition.compare (.custom render)).2.Silent :=
    ⟨rfl, fun _ field s => hsilent field s⟩
  have hagree := agree_filled hchild place outer field s
  exact ⟨hagree.scope, hagree.text_eq_iff⟩

/-- The place in front of the alternatives for "y" in "x = $x AND (y = $y OR y = $y2)". -/
def besideAlternatives : Place :=
  .deeper .and [("x", .scalar .null)] "y"
    (.here .or [] [("", .or [.scalar .null, .scalar .null])]) []

theorem render_filled_eq_vacant_iff_besideAlternatives :
    (∀ field s, Comparator.silent.render field s = (.empty, s)) ∧
    besideAlternatives.keepsBrackets .none "" (.fresh 1) = false ∧
    ((besideAlternatives.filled ("", .compare .silent)).render .none "" (.fresh 1)).1 ≠
      (besideAlternatives.vacant.render .none "" (.fresh 1)).1 := by
  have hkeeps : besideAlternatives.keepsBrackets .none "" (.fresh 1) = false := by decide +kernel
  have hiff := (render_filled_eq_vacant_iff (fun _ _ => rfl) "" besideAlternatives .none ""
    (.fresh 1)).2
  exact ⟨fun _ _ => rfl, hkeeps, fun h => by rw [hiff.mp h] at hkeeps; cases hkeeps⟩

theorem silent_child_strips_brackets :
    (∃ q, (besideAlternatives.filled ("", .compare .silent)).compile .none "" = .ok q ∧
      q.script = "x = $x AND y = $y OR y = $y2") ∧
    (∃ q, besideAlternatives.vacant.compile .none "" = .ok q ∧
      q.script = "x = $x AND (y = $y OR y = $y2)") ∧
    ((besideAlternatives.filled ("", .compare .silent)).render .none "" (.fresh 1)).1 ≠
      (besideAlternatives.vacant.render .none "" (.fresh 1)).1 :=
  ⟨⟨_, rfl, by decide +kernel⟩, ⟨_, rfl, by decide +kernel⟩, by decide +kernel⟩

end Place

end GraphQuery
