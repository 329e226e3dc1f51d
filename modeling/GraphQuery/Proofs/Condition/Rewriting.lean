import GraphQuery.Proofs.Condition.Level
import Mathlib.Logic.Relation

/-!
# Rewriting conditions

A group may lose a child that tests nothing, a group of one may be replaced by its child, and a
group inside a group of the same connective may be dissolved. The key of what disappears goes in
front of the keys that stay. `render_of_rewrites`: such steps, anywhere in a condition and in any
number, change neither its text nor what it stores.
-/

namespace GraphQuery

namespace Fragment

variable {separator : String}

theorem join_append_congr {before fs gs : List Fragment} (hf : fs ≠ []) (hg : gs ≠ [])
    (h : join separator fs = join separator gs) :
    join separator (before ++ fs) = join separator (before ++ gs) := by
  by_cases hb : before = []
  · subst hb
    exact h
  · rw [join_append separator hb hf, join_append separator hb hg, h]

/-- Joining a joined list with others is joining all. -/
theorem join_parts_join (before after : List Fragment) {inner : List Fragment}
    (hinner : ∀ f ∈ inner, f.isEmpty = false) :
    join separator (before ++ ((join separator inner).parts ++ after)) =
      join separator (before ++ (inner ++ after)) := by
  by_cases hnil : inner = []
  · subst hnil
    rfl
  · have hparts : (join separator inner).parts = [join separator inner] := by
      rw [parts, isEmpty_join hnil hinner]
      rfl
    rw [hparts]
    refine join_append_congr (by simp) (by simp [hnil]) ?_
    by_cases ha : after = []
    · subst ha
      rw [List.append_nil, List.append_nil, join_singleton]
    · rw [join_append separator hnil ha, join_append separator (List.cons_ne_nil _ _) ha,
        join_singleton]

end Fragment

namespace Condition

theorem joinField_assoc (path key key' : String) :
    joinField (joinField path key) key' = joinField path (joinField key key') := by
  by_cases hkey : key = ""
  · subst hkey; simp
  · by_cases hkey' : key' = ""
    · subst hkey'; simp
    · by_cases hpath : path = ""
      · subst hpath; simp
      · simp [joinField, hkey, hkey', hpath, String.append_assoc]

/-- A child of a group as a child of what surrounds the group, `key` being the key of the group. -/
def lift (key : String) (child : String × Condition) : String × Condition :=
  (joinField key child.1, child.2)

/-- One step for a condition with its key. -/
inductive Rewrites : String × Condition → String × Condition → Prop
  | drop {key : String} {k : Connective} {child : String × Condition}
      {before after : List (String × Condition)} : child.2.isEmpty = true →
      Rewrites (key, junction k (before ++ child :: after)) (key, junction k (before ++ after))
  | single {key : String} {k : Connective} {child : String × Condition} :
      Rewrites (key, junction k [child]) (lift key child)
  | dissolve {key : String} {k : Connective} {inner : String}
      {children before after : List (String × Condition)} :
      Rewrites (key, junction k (before ++ (inner, junction k children) :: after))
        (key, junction k (before ++ (children.map (lift inner) ++ after)))
  | not {key key' : String} {c c' : Condition} :
      Rewrites (key, c) (key', c') → Rewrites (key, not c) (key', not c')
  | child {key : String} {k : Connective} {child child' : String × Condition}
      {before after : List (String × Condition)} : Rewrites child child' →
      Rewrites (key, junction k (before ++ child :: after))
        (key, junction k (before ++ child' :: after))

/-! ## Dissolving a group -/

section
variable {children : List (String × Condition)}

theorem live_map_lift (key : String) (children : List (String × Condition)) :
    live (children.map (lift key)) = (live children).map (lift key) :=
  List.filter_map ..

theorem renderChildren_map_lift (outer : Precedence) (field key : String)
    (children : List (String × Condition)) (s : Scope) :
    renderChildren outer field (children.map (lift key)) s =
      renderChildren outer (joinField field key) children s := by
  induction children generalizing s with
  | nil => rfl
  | cons child rest ih =>
    simp only [List.map_cons, renderChildren_cons, ih, lift, joinField_assoc]

theorem render_map_lift (k : Connective) (outer : Precedence) (field key : String)
    (children : List (String × Condition)) (s : Scope) :
    (junction k (children.map (lift key))).render outer field s =
      (junction k children).render outer (joinField field key) s := by
  simp only [render, childPrecedence, live_map_lift, List.length_map, renderChildren_map_lift]

theorem length_renderChildren (hc : ∀ child ∈ children, child.2.All Comparator.Writes)
    (outer : Precedence) (field : String) (s : Scope) :
    (renderChildren outer field children s).1.length = (live children).length := by
  induction children generalizing s with
  | nil => rfl
  | cons child rest ih =>
    have hchild := isEmpty_render child.2 (hc child (List.mem_cons_self ..)) outer
      (joinField field child.1) s
    have hrest := ih fun c h => hc c (List.mem_cons_of_mem _ h)
    rw [renderChildren_cons, List.length_append, hrest, Fragment.parts, hchild]
    by_cases hempty : child.2.isEmpty = true
    · rw [live_cons_of_isEmpty hempty, if_pos hempty, List.length_nil, Nat.zero_add]
    · rw [live_cons_of_not_isEmpty (Bool.eq_false_iff.mpr hempty), if_neg hempty,
        List.length_singleton, List.length_cons, Nat.add_comm]

theorem render_junction_of_several (h : 2 ≤ (live children).length)
    (hc : ∀ child ∈ children, child.2.All Comparator.Writes) (k : Connective) (outer : Precedence)
    (field : String) (s : Scope) :
    (junction k children).render outer field s =
      let parts := renderChildren k.precedence field children s
      (if k.precedence.rank < outer.rank then (Fragment.join k.separator parts.1).parenthesized
        else Fragment.join k.separator parts.1, parts.2) := by
  rw [render_junction_of_two h, assemble_of_two (by rw [length_renderChildren hc]; exact h)]

/-- At the level of its own connective a group is never bracketed. -/
theorem render_junction_own (k : Connective) (field : String)
    (children : List (String × Condition)) (s : Scope) :
    (junction k children).render k.precedence field s =
      (Fragment.join k.separator (renderChildren k.precedence field children s).1,
        (renderChildren k.precedence field children s).2) := by
  rw [render, childPrecedence, ite_self, assemble, if_neg fun h => Nat.lt_irrefl _ h.2]

/-- **A group inside a group of the same connective may be dissolved.** -/
theorem render_dissolve (k : Connective) {key : String} {before after : List (String × Condition)}
    (hbefore : ∀ child ∈ before, child.2.All Comparator.Writes)
    (hc : ∀ child ∈ children, child.2.All Comparator.Writes)
    (hafter : ∀ child ∈ after, child.2.All Comparator.Writes) (outer : Precedence) (field : String)
    (s : Scope) :
    (junction k (before ++ (key, junction k children) :: after)).render outer field s =
      (junction k (before ++ (children.map (lift key) ++ after))).render outer field s := by
  have hgroup : (junction k children).isEmpty = true ↔ live children = [] := by
    rw [isEmpty, live_eq_nil_iff]
  by_cases hnone : live children = []
  · refine render_junction_of_live_eq ?_ k outer field s
    rw [live_append, live_append, live_append, live_cons_of_isEmpty (hgroup.mpr hnone),
      live_map_lift, hnone]
    rfl
  · have hlive : (key, junction k children).2.isEmpty = false := by
      rw [← Bool.not_eq_true]
      exact mt hgroup.mp hnone
    have hpos : 1 ≤ (live children).length := List.length_pos_iff.mpr hnone
    by_cases hothers : live before = [] ∧ live after = []
    · -- the inner group is alone and hands the surroundings on
      have hlone : live (before ++ (key, junction k children) :: after) = [(key, junction k children)] := by
        rw [live_append, live_cons_of_not_isEmpty hlive, hothers.1, hothers.2]
        rfl
      have hsame : live (before ++ (children.map (lift key) ++ after)) = live (children.map (lift key)) := by
        rw [live_append, live_append, hothers.1, hothers.2, List.append_nil]
        rfl
      rw [render_junction_of_lone hlone, render_junction_of_live_eq hsame, render_map_lift]
    · -- both groups have several live children and never bracket the inner group
      have hcount : 1 ≤ (live before).length + (live after).length := by
        rw [← List.length_append, Nat.one_le_iff_ne_zero, ne_eq, List.length_eq_zero_iff,
          List.append_eq_nil_iff]
        exact hothers
      have htwo : 2 ≤ (live (before ++ (key, junction k children) :: after)).length := by
        rw [live_append, live_cons_of_not_isEmpty hlive, List.length_append, List.length_cons]
        omega
      have htwo' : 2 ≤ (live (before ++ (children.map (lift key) ++ after))).length := by
        rw [live_append, live_append, live_map_lift, List.length_append, List.length_append,
          List.length_map]
        omega
      have hall : ∀ child ∈ before ++ (key, junction k children) :: after,
          child.2.All Comparator.Writes := by
        simp only [List.forall_mem_append, List.forall_mem_cons]
        exact ⟨hbefore, by rw [All, allIn_iff]; exact hc, hafter⟩
      have hall' : ∀ child ∈ before ++ (children.map (lift key) ++ after),
          child.2.All Comparator.Writes := by
        simp only [List.forall_mem_append, List.forall_mem_map]
        exact ⟨hbefore, hc, hafter⟩
      rw [render_junction_of_several htwo hall, render_junction_of_several htwo' hall']
      simp only [renderChildren_append, renderChildren_cons, renderChildren_map_lift,
        render_junction_own, Fragment.join_parts_join _ _ fun f hf => isEmpty_of_mem_renderChildren hf]

end

/-! ## Steps -/

section
variable {child child' : String × Condition}

theorem Rewrites.isEmpty_eq (h : Rewrites child child') : child.2.isEmpty = child'.2.isEmpty := by
  induction h with
  | drop hempty => simp [isEmpty, allEmpty_eq, hempty]
  | single => simp [isEmpty, allEmpty_eq, lift]
  | dissolve => simp [isEmpty, allEmpty_eq, lift, Function.comp_def]
  | not _ ih => exact ih
  | child _ ih => simp [isEmpty, allEmpty_eq, ih]

theorem Rewrites.all (h : Rewrites child child') {P : Comparator → Prop} :
    child.2.All P → child'.2.All P := by
  induction h with
  | drop _ =>
    simp only [All, allIn_iff, List.forall_mem_append, List.forall_mem_cons]
    exact fun h => ⟨h.1, h.2.2⟩
  | @single _ _ child => exact fun h => h.child child (List.mem_singleton_self child)
  | dissolve =>
    simp only [All, allIn_iff, List.forall_mem_append, List.forall_mem_cons, List.forall_mem_map]
    exact id
  | not _ ih => exact ih
  | child _ ih =>
    simp only [All, allIn_iff, List.forall_mem_append, List.forall_mem_cons]
    exact fun h => ⟨h.1, ih h.2.1, h.2.2⟩

theorem render_junction_congr (k : Connective) (before after : List (String × Condition))
    (hempty : child.2.isEmpty = child'.2.isEmpty) {field : String}
    (hrender : ∀ outer s, child.2.render outer (joinField field child.1) s =
      child'.2.render outer (joinField field child'.1) s) (outer : Precedence) (s : Scope) :
    (junction k (before ++ child :: after)).render outer field s =
      (junction k (before ++ child' :: after)).render outer field s := by
  have hlevel : childPrecedence outer k (before ++ child :: after) =
      childPrecedence outer k (before ++ child' :: after) := by
    have hlength : (live (child :: after)).length = (live (child' :: after)).length := by
      simp only [live, List.filter_cons, hempty]
      split <;> rfl
    simp only [childPrecedence, live_append, List.length_append, hlength]
  simp only [render, hlevel, renderChildren_append, renderChildren_cons, hrender]

theorem Rewrites.render_eq (h : Rewrites child child') (hc : child.2.All Comparator.Writes) :
    ∀ outer field s, child.2.render outer (joinField field child.1) s =
      child'.2.render outer (joinField field child'.1) s := by
  induction h with
  | drop hempty =>
    intro outer field s
    refine render_junction_of_live_eq ?_ _ _ _ _
    rw [live_append, live_append, live_cons_of_isEmpty hempty]
  | @single key k child =>
    intro outer field s
    rw [lift, ← joinField_assoc]
    by_cases hempty : child.2.isEmpty = true
    · have hnone : live [child] = [] := live_cons_of_isEmpty hempty []
      rw [render_junction_of_none hnone, render_of_isEmpty _ hempty]
    · have hlone : live [child] = [child] :=
        live_cons_of_not_isEmpty (Bool.eq_false_iff.mpr hempty) []
      exact render_junction_of_lone hlone k outer _ s
  | dissolve =>
    intro outer field s
    simp only [All, allIn_iff, List.forall_mem_append, List.forall_mem_cons] at hc
    exact render_dissolve _ hc.1 hc.2.1 hc.2.2 outer _ s
  | not _ ih =>
    intro outer field s
    simp only [render, ih hc]
  | child hstep ih =>
    intro outer field s
    simp only [All, allIn_iff, List.forall_mem_append, List.forall_mem_cons] at hc
    refine render_junction_congr _ _ _ hstep.isEmpty_eq (fun level s' => ?_) outer s
    exact ih hc.2.1 level _ s'

/-- **Rewriting is invisible.** Any number of steps anywhere in a condition leave its text and what
it stores as they are, in all surroundings and for every field. -/
theorem render_of_rewrites (hsteps : Relation.ReflTransGen Rewrites child child')
    (hc : child.2.All Comparator.Writes) (outer : Precedence) (field : String) (s : Scope) :
    child.2.render outer (joinField field child.1) s =
      child'.2.render outer (joinField field child'.1) s := by
  have hkept : child'.2.All Comparator.Writes ∧
      child.2.render outer (joinField field child.1) s =
        child'.2.render outer (joinField field child'.1) s := by
    induction hsteps with
    | refl => exact ⟨hc, rfl⟩
    | tail _ hstep ih => exact ⟨hstep.all ih.1, ih.2.trans (hstep.render_eq ih.1 outer field s)⟩
  exact hkept.2

end

def alternatives : Condition :=
  .or [.scalar .null, .scalar .null]

/-- "NOT (n.x = $x AND (n.y = $y OR n.y = $y2))", with groups that do nothing. -/
def padded : Condition :=
  .not (.and [("", .xor []), ("n", .and [("x", .scalar .null), ("y", .or [alternatives])])])

def plain : Condition :=
  .not (.and [("x", .scalar .null), ("y", alternatives)])

theorem render_of_rewrites_padded :
    Relation.ReflTransGen Rewrites ("", padded) ("n", plain) ∧ padded.All Comparator.Writes ∧
      padded.render .xor "" ⟨.empty, 1⟩ = plain.render .xor "n" ⟨.empty, 1⟩ := by
  have hdrop := Rewrites.not (@Rewrites.drop "" .and ("", .xor []) []
    [("n", .and [("x", .scalar .null), ("y", .or [alternatives])])] rfl)
  have halternatives : Rewrites ("y", .or [alternatives]) ("y", alternatives) := .single
  have hinner := @Rewrites.child "n" .and _ _ [("x", .scalar .null)] [] halternatives
  have houter := Rewrites.not (@Rewrites.child "" .and _ _ [] [] hinner)
  have hsingle : Rewrites ("", .not (.and [("n", .and [("x", .scalar .null), ("y", alternatives)])]))
      ("n", plain) := .not .single
  have hsteps : Relation.ReflTransGen Rewrites ("", padded) ("n", plain) :=
    ((Relation.ReflTransGen.single hdrop).tail houter).tail hsingle
  have hc : padded.All Comparator.Writes := by
    simp [padded, alternatives, Condition.and, Condition.or, Condition.xor, All, AllIn]
  have hrender := render_of_rewrites hsteps hc .xor "" ⟨.empty, 1⟩
  rw [joinField_empty_path, joinField_empty_path] at hrender
  exact ⟨hsteps, hc, hrender⟩

end Condition

end GraphQuery
