import GraphQuery.Proofs.Condition.Truth

/-!
# What the surroundings of a condition decide

Only live children take part in a junction, and a junction with one live child is that child. The
level at which a condition is rendered decides whether one pair of brackets stands around its text
and nothing else (`render_eq_bracketed`).
-/

namespace GraphQuery

/-- What a text adds to a list of parts: itself, unless it is empty. -/
def Fragment.parts (f : Fragment) : List Fragment :=
  if f.isEmpty then [] else [f]

theorem Fragment.join_parts (separator : String) (f : Fragment) :
    join separator f.parts = f := by
  by_cases h : f.isEmpty = true
  · rw [parts, if_pos h, isEmpty_iff.mp h, join_nil]
  · rw [parts, if_neg h, join_singleton]

theorem Fragment.length_parts_lt_two (f : Fragment) : f.parts.length < 2 := by
  unfold parts
  split <;> simp

theorem Fragment.isEmpty_of_mem_parts {f g : Fragment} (h : g ∈ f.parts) : g.isEmpty = false := by
  unfold parts at h
  split at h
  · cases h
  · rename_i hf
    rw [List.mem_singleton.mp h]
    exact Bool.eq_false_iff.mpr hf

namespace Condition

variable {k : Connective} {cs ds : List (String × Condition)}

/-! ## Lists of children -/

@[simp] theorem live_append (cs ds : List (String × Condition)) :
    live (cs ++ ds) = live cs ++ live ds :=
  List.filter_append ..

theorem live_cons_of_isEmpty {child : String × Condition} (h : child.2.isEmpty = true)
    (rest : List (String × Condition)) : live (child :: rest) = live rest := by
  simp [live, h]

theorem live_cons_of_not_isEmpty {child : String × Condition} (h : child.2.isEmpty = false)
    (rest : List (String × Condition)) : live (child :: rest) = child :: live rest := by
  simp [live, h]

theorem mem_of_mem_live {child : String × Condition} (h : child ∈ live cs) : child ∈ cs :=
  (List.mem_filter.mp h).1

theorem isEmpty_of_mem_live {child : String × Condition} (h : child ∈ live cs) :
    child.2.isEmpty = false := by
  simpa using (List.mem_filter.mp h).2

theorem mem_live_of_lone {child : String × Condition} (h : live cs = [child]) : child ∈ live cs := by
  rw [h]
  exact List.mem_singleton_self child

theorem renderChildren_cons (outer : Precedence) (field : String) (child : String × Condition)
    (rest : List (String × Condition)) (s : Scope) :
    renderChildren outer field (child :: rest) s =
      let first := child.2.render outer (joinField field child.1) s
      let others := renderChildren outer field rest first.2
      (first.1.parts ++ others.1, others.2) := by
  obtain ⟨key, c⟩ := child
  rw [renderChildren]
  by_cases hempty : c.isEmpty = true
  · rw [if_pos hempty, render_of_isEmpty c hempty]
    rfl
  · rw [if_neg hempty]
    by_cases htext : (c.render outer (joinField field key) s).1.isEmpty = true <;>
      simp [Fragment.parts, htext]

theorem isEmpty_of_mem_renderChildren {outer : Precedence} {field : String} {f : Fragment} :
    ∀ {s : Scope}, f ∈ (renderChildren outer field cs s).1 → f.isEmpty = false := by
  induction cs with
  | nil => intro s h; cases h
  | cons child rest ih =>
    intro s h
    rw [renderChildren_cons] at h
    rcases List.mem_append.mp h with hfirst | hrest
    · exact Fragment.isEmpty_of_mem_parts hfirst
    · exact ih hrest

theorem renderChildren_append (outer : Precedence) (field : String)
    (cs ds : List (String × Condition)) (s : Scope) :
    renderChildren outer field (cs ++ ds) s =
      let first := renderChildren outer field cs s
      let others := renderChildren outer field ds first.2
      (first.1 ++ others.1, others.2) := by
  induction cs generalizing s with
  | nil => rfl
  | cons child rest ih =>
    simp only [List.cons_append, renderChildren_cons, ih, List.append_assoc]

theorem renderChildren_live (outer : Precedence) (field : String)
    (children : List (String × Condition)) (s : Scope) :
    renderChildren outer field (live children) s = renderChildren outer field children s := by
  induction children generalizing s with
  | nil => rfl
  | cons child rest ih =>
    obtain ⟨key, c⟩ := child
    by_cases hempty : c.isEmpty = true
    · rw [live_cons_of_isEmpty hempty, ih, renderChildren, if_pos hempty]
    · rw [live_cons_of_not_isEmpty (Bool.eq_false_iff.mpr hempty), renderChildren_cons,
        renderChildren_cons]
      simp only [ih]

/-! ## Junctions by the number of their live children -/

@[elab_as_elim]
theorem liveInduction {P : Condition → Prop} (scalar : ∀ v, P (.scalar v))
    (compare : ∀ comparator, P (.compare comparator))
    (bare : ∀ k children, live children = [] → P (.junction k children))
    (lone : ∀ k children child, live children = [child] → P child.2 → P (.junction k children))
    (several : ∀ k children, 2 ≤ (live children).length → (∀ child ∈ children, P child.2) →
      P (.junction k children))
    (not : ∀ c, P c → P (.not c)) (c : Condition) : P c := by
  induction c using treeInduction with
  | scalar v => exact scalar v
  | compare comparator => exact compare comparator
  | junction k children ih =>
    match hlive : live children with
    | [] => exact bare k children hlive
    | [child] =>
      exact lone k children child hlive (ih child (mem_of_mem_live (mem_live_of_lone hlive)))
    | c₁ :: c₂ :: rest => exact several k children (by rw [hlive]; simp) ih
  | not c ih => exact not c ih

theorem render_junction_of_live_eq (h : live cs = live ds) (k : Connective) (outer : Precedence)
    (field : String) (s : Scope) :
    (junction k cs).render outer field s = (junction k ds).render outer field s := by
  simp only [render, childPrecedence, h, ← renderChildren_live _ field cs,
    ← renderChildren_live _ field ds]

theorem render_junction_of_none (h : live cs = []) (k : Connective) (outer : Precedence)
    (field : String) (s : Scope) : (junction k cs).render outer field s = (.empty, s) :=
  render_of_isEmpty _ (by rw [isEmpty]; exact live_eq_nil_iff.mp h) outer field s

theorem assemble_of_length_lt_two {parts : List Fragment} (h : parts.length < 2)
    (outer : Precedence) (k : Connective) :
    assemble outer k parts = Fragment.join k.separator parts := by
  rw [assemble, if_neg (by omega)]

theorem assemble_of_two {parts : List Fragment} (h : 2 ≤ parts.length) (outer : Precedence)
    (k : Connective) :
    assemble outer k parts =
      if k.precedence.rank < outer.rank then (Fragment.join k.separator parts).parenthesized
      else Fragment.join k.separator parts := by
  simp only [assemble, h, true_and]

theorem assemble_none (k : Connective) (parts : List Fragment) :
    assemble .none k parts = Fragment.join k.separator parts := by
  rw [assemble, if_neg fun h => Nat.not_lt_zero _ h.2]

/-- **A junction with one live child is that child.** -/
theorem render_junction_of_lone {child : String × Condition} (h : live cs = [child])
    (k : Connective) (outer : Precedence) (field : String) (s : Scope) :
    (junction k cs).render outer field s = child.2.render outer (joinField field child.1) s := by
  rw [render, childPrecedence, h, if_pos (by simp), ← renderChildren_live, h, renderChildren_cons]
  simp only [renderChildren, List.append_nil, Fragment.join_parts,
    assemble_of_length_lt_two (Fragment.length_parts_lt_two _)]

theorem render_junction_of_two (h : 2 ≤ (live cs).length) (k : Connective) (outer : Precedence)
    (field : String) (s : Scope) :
    (junction k cs).render outer field s =
      (assemble outer k (renderChildren k.precedence field cs s).1,
        (renderChildren k.precedence field cs s).2) := by
  rw [render, childPrecedence, if_neg (by omega)]

/-! ## The connective that asks for brackets -/

mutual

/-- The connective that joins the parts of the text of a condition, if there are several. -/
def connective? (field : String) : Condition → Scope → Option Connective
  | .scalar _, _ => none
  | .compare _, _ => none
  | .junction k children, s =>
    if (live children).length < 2 then loneConnective? field children s
    else if (renderChildren k.precedence field children s).1.length < 2 then none else some k
  | .not _, _ => none

/-- The connective of the first live child. -/
def loneConnective? (field : String) : List (String × Condition) → Scope → Option Connective
  | [], _ => none
  | (key, c) :: rest, s =>
    if c.isEmpty then loneConnective? field rest s else connective? (joinField field key) c s

end

/-- Whether the text of a condition is bracketed at a level. -/
def bracketed (outer : Precedence) (field : String) (c : Condition) (s : Scope) : Bool :=
  (c.connective? field s).any fun k => k.precedence.rank < outer.rank

theorem loneConnective?_eq (field : String) (children : List (String × Condition)) (s : Scope) :
    loneConnective? field children s =
      (live children).head?.bind fun child => child.2.connective? (joinField field child.1) s := by
  induction children with
  | nil => rfl
  | cons child rest ih =>
    obtain ⟨key, c⟩ := child
    rw [loneConnective?]
    by_cases hempty : c.isEmpty = true
    · rw [if_pos hempty, ih, live_cons_of_isEmpty hempty]
    · rw [if_neg hempty, live_cons_of_not_isEmpty (Bool.eq_false_iff.mpr hempty)]
      rfl

theorem bracketed_junction_of_none (h : live cs = []) (k : Connective) (outer : Precedence)
    (field : String) (s : Scope) : (junction k cs).bracketed outer field s = false := by
  rw [bracketed, connective?, h, if_pos (by simp), loneConnective?_eq, h]
  rfl

theorem bracketed_junction_of_lone {child : String × Condition} (h : live cs = [child])
    (k : Connective) (outer : Precedence) (field : String) (s : Scope) :
    (junction k cs).bracketed outer field s = child.2.bracketed outer (joinField field child.1) s := by
  rw [bracketed, connective?, h, if_pos (by simp), loneConnective?_eq, h]
  rfl

theorem bracketed_junction_of_two (h : 2 ≤ (live cs).length) (k : Connective) (outer : Precedence)
    (field : String) (s : Scope) :
    (junction k cs).bracketed outer field s =
      (decide (2 ≤ (renderChildren k.precedence field cs s).1.length) &&
        decide (k.precedence.rank < outer.rank)) := by
  rw [bracketed, connective?, if_neg (by omega)]
  by_cases hparts : (renderChildren k.precedence field cs s).1.length < 2
  · rw [if_pos hparts, decide_eq_false (by omega)]
    rfl
  · rw [if_neg hparts, decide_eq_true (by omega)]
    rfl

/-- **The level only decides about one pair of brackets**, which stands around the whole text. -/
theorem render_eq_bracketed (c : Condition) (outer : Precedence) : ∀ field s,
    c.render outer field s =
      (if c.bracketed outer field s then (c.render .none field s).1.parenthesized
        else (c.render .none field s).1, (c.render .none field s).2) := by
  induction c using liveInduction with
  | scalar v => intro field s; rfl
  | compare comparator => intro field s; rfl
  | bare k children hlive =>
    intro field s
    rw [render_junction_of_none hlive, render_junction_of_none hlive,
      bracketed_junction_of_none hlive]
    rfl
  | lone k children child hlive ih =>
    intro field s
    rw [render_junction_of_lone hlive, render_junction_of_lone hlive,
      bracketed_junction_of_lone hlive]
    exact ih _ _
  | several k children hlive _ =>
    intro field s
    rw [render_junction_of_two hlive, render_junction_of_two hlive, bracketed_junction_of_two hlive,
      assemble_none, assemble]
    simp only [Bool.and_eq_true, decide_eq_true_eq]
  | not c _ => intro field s; rfl

theorem isEmpty_render_eq (c : Condition) (outer : Precedence) : ∀ field s,
    (c.render outer field s).1.isEmpty = (c.render .none field s).1.isEmpty := by
  induction c using liveInduction with
  | scalar v => intro field s; rfl
  | compare comparator => intro field s; rfl
  | bare k children hlive =>
    intro field s
    rw [render_junction_of_none hlive, render_junction_of_none hlive]
  | lone k children child hlive ih =>
    intro field s
    rw [render_junction_of_lone hlive, render_junction_of_lone hlive]
    exact ih _ _
  | several k children hlive _ =>
    intro field s
    rw [render_junction_of_two hlive, render_junction_of_two hlive,
      isEmpty_assemble fun f hf => isEmpty_of_mem_renderChildren hf,
      isEmpty_assemble fun f hf => isEmpty_of_mem_renderChildren hf]
  | not c _ => intro field s; rfl

end Condition

end GraphQuery
