import GraphQuery.Proofs.Formula.Grammar
import GraphQuery.Proofs.Fragment

/-!
# The elementary tests of a condition and its truth value

The elementary tests of a condition are its leaves, except that a range is two tests. They are
numbered from left to right, and a truth value for each of them gives one for the condition.
Groups in which nothing is tested count as absent. `isEmpty_render`: they are just the conditions
without text.
-/

namespace GraphQuery

namespace Comparator

def IsElementary : Comparator → Prop
  | .between .. => False
  | .custom _ => False
  | _ => True

/-- What a caller supplies never gives empty text. -/
def Writes : Comparator → Prop
  | .custom render => ∀ field s, (render field s).1.isEmpty = false
  | _ => True

def width : Comparator → Nat
  | .between .. => 2
  | _ => 1

def value (ν : Nat → Bool) (n : Nat) : Comparator → Bool
  | .between .. => ν n && ν (n + 1)
  | _ => ν n

/-- The texts of the tests. The bounds of a range are tests of their own. -/
def tests (field : String) : Comparator → Scope → List Fragment × Scope
  | .between lower upper lowerInclusive upperInclusive, s =>
    let low := lower.render ("lower_" ++ parameterName field) s
    let high := upper.render ("upper_" ++ parameterName field) low.2
    ([.text (field ++ if lowerInclusive then " >= " else " > ") ++ low.1,
      .text (field ++ if upperInclusive then " <= " else " < ") ++ high.1], high.2)
  | c, s => ([(c.render field s).1], (c.render field s).2)

theorem IsElementary.writes {c : Comparator} (h : c.IsElementary) : c.Writes := by
  cases c <;> trivial

theorem length_tests (field : String) (c : Comparator) (s : Scope) :
    (c.tests field s).1.length = c.width := by
  cases c <;> rfl

theorem Writes.isEmpty_render {c : Comparator} (h : c.Writes) (field : String) (s : Scope) :
    (c.render field s).1.isEmpty = false := by
  cases c with
  | binary operator operand => exact Fragment.isEmpty_text_append (by simp) _
  | between lower upper lowerInclusive upperInclusive =>
    simp only [render, Fragment.append_assoc]
    exact Fragment.isEmpty_text_append (by split <;> simp) _
  | hasLabel label => exact Fragment.isEmpty_text (by simp)
  | isPresent => exact Fragment.isEmpty_text (by simp)
  | isNull => exact Fragment.isEmpty_text (by simp)
  | custom f => exact h field s

end Comparator

/-- A junction of truth values, if there are any. -/
def Connective.total : Connective → List Bool → Option Bool
  | _, [] => none
  | .or, vs => some (vs.any id)
  | .xor, vs => some (vs.foldr (· ^^ ·) false)
  | .and, vs => some (vs.all id)

namespace Condition

/-- Induction on a condition together with its lists of children, as functions of conditions
recurse. -/
@[elab_as_elim]
theorem childInduction {P : Condition → Prop} {Q : List (String × Condition) → Prop}
    (scalar : ∀ v, P (.scalar v)) (compare : ∀ k, P (.compare k))
    (junction : ∀ k children, Q children → P (.junction k children)) (not : ∀ c, P c → P (.not c))
    (nil : Q []) (cons : ∀ key c rest, P c → Q rest → Q ((key, c) :: rest)) (c : Condition) : P c :=
  @Condition.rec P Q (fun child => P child.2) scalar compare junction not nil
    (fun child rest => cons child.1 child.2 rest) (fun _ _ h => h) c

@[elab_as_elim]
theorem treeInduction {P : Condition → Prop} (scalar : ∀ v, P (.scalar v))
    (compare : ∀ k, P (.compare k))
    (junction : ∀ k children, (∀ child ∈ children, P child.2) → P (.junction k children))
    (not : ∀ c, P c → P (.not c)) (c : Condition) : P c := by
  induction c using childInduction (Q := fun children => ∀ child ∈ children, P child.2) with
  | scalar v => exact scalar v
  | compare k => exact compare k
  | junction k children ih => exact junction k children ih
  | not c ih => exact not c ih
  | nil child h => cases h
  | cons key c rest ih ihrest child h =>
    rcases List.mem_cons.mp h with rfl | hrest
    · exact ih
    · exact ihrest child hrest

mutual

def All (P : Comparator → Prop) : Condition → Prop
  | .scalar _ => True
  | .compare c => P c
  | .junction _ children => AllIn P children
  | .not inner => inner.All P

def AllIn (P : Comparator → Prop) : List (String × Condition) → Prop
  | [] => True
  | (_, c) :: rest => c.All P ∧ AllIn P rest

end

mutual

def width : Condition → Nat
  | .scalar _ => 1
  | .compare c => c.width
  | .junction _ children => widths children
  | .not inner => inner.width

def widths : List (String × Condition) → Nat
  | [] => 0
  | (_, c) :: rest => c.width + widths rest

end

mutual

/-- The truth value of a condition whose first test has the number `n`. -/
def value (ν : Nat → Bool) (n : Nat) : Condition → Option Bool
  | .scalar _ => some (ν n)
  | .compare c => some (c.value ν n)
  | .junction connective children => connective.total (values ν n children)
  | .not inner => (inner.value ν n).map (!·)

def values (ν : Nat → Bool) (n : Nat) : List (String × Condition) → List Bool
  | [] => []
  | (_, c) :: rest => (c.value ν n).toList ++ values ν (n + c.width) rest

end

mutual

def tests (field : String) : Condition → Scope → List Fragment × Scope
  | .scalar value, s =>
    let own := render .none field (.scalar value) s
    ([own.1], own.2)
  | .compare comparator, s => comparator.tests field s
  | .junction _ children, s => childTests field children s
  | .not inner, s => tests field inner s

def childTests (field : String) : List (String × Condition) → Scope → List Fragment × Scope
  | [], s => ([], s)
  | (key, c) :: rest, s =>
    let first := tests (joinField field key) c s
    let others := childTests field rest first.2
    (first.1 ++ others.1, others.2)

end

section
variable {P Q : Comparator → Prop}

theorem allIn_iff {children : List (String × Condition)} :
    AllIn P children ↔ ∀ child ∈ children, child.2.All P := by
  induction children with
  | nil => simp [AllIn]
  | cons child rest ih => obtain ⟨_, c⟩ := child; simp [AllIn, ih]

theorem All.child {k : Connective} {children : List (String × Condition)}
    (h : (junction k children).All P) : ∀ child ∈ children, child.2.All P := by
  rw [All] at h
  exact allIn_iff.mp h

theorem All.mono (hPQ : ∀ k, P k → Q k) (c : Condition) : c.All P → c.All Q := by
  induction c using treeInduction with
  | scalar v => intro _; rw [All]; trivial
  | compare k => intro h; rw [All] at h ⊢; exact hPQ k h
  | junction k children ih =>
    intro h
    rw [All, allIn_iff]
    exact fun child hchild => ih child hchild (h.child child hchild)
  | not c ih => intro h; rw [All] at h ⊢; exact ih h

end

theorem length_tests (c : Condition) : ∀ field s, (c.tests field s).1.length = c.width := by
  induction c using childInduction
    (Q := fun children => ∀ field s, (childTests field children s).1.length = widths children) with
  | scalar v => intro field s; rfl
  | compare k => intro field s; rw [tests, width, Comparator.length_tests]
  | junction k children ih => intro field s; rw [tests, width, ih]
  | not c ih => intro field s; rw [tests, width, ih]
  | nil field s => rfl
  | cons key c rest ih ihrest field s =>
    rw [childTests, widths, List.length_append, ih, ihrest]

/-! ## What tests nothing -/

theorem allEmpty_cons {key : String} {c : Condition} {rest : List (String × Condition)} :
    allEmpty ((key, c) :: rest) = true ↔ c.isEmpty = true ∧ allEmpty rest = true := by
  rw [allEmpty, Bool.and_eq_true]

theorem tests_of_isEmpty (c : Condition) (h : c.isEmpty = true) :
    ∀ field s, c.tests field s = ([], s) := by
  induction c using childInduction (Q := fun children =>
    allEmpty children = true → ∀ field s, childTests field children s = ([], s)) with
  | scalar v => rw [isEmpty] at h; cases h
  | compare k => rw [isEmpty] at h; cases h
  | junction k children ih => intro field s; rw [isEmpty] at h; rw [tests]; exact ih h field s
  | not c ih => intro field s; rw [isEmpty] at h; rw [tests]; exact ih h field s
  | nil _ field s => rfl
  | cons key c rest ih ihrest h field s =>
    obtain ⟨hc, hrest⟩ := allEmpty_cons.mp h
    rw [childTests, ih hc, ihrest hrest]
    rfl

theorem render_of_isEmpty (c : Condition) (h : c.isEmpty = true) :
    ∀ outer field s, c.render outer field s = (.empty, s) := by
  induction c using childInduction (Q := fun children =>
    allEmpty children = true → ∀ outer field s, renderChildren outer field children s = ([], s)) with
  | scalar v => rw [isEmpty] at h; cases h
  | compare k => rw [isEmpty] at h; cases h
  | junction k children ih =>
    intro outer field s
    rw [isEmpty] at h
    simp only [render, ih h, assemble, Fragment.join_nil, List.length_nil]
    rfl
  | not c ih =>
    intro outer field s
    rw [isEmpty] at h
    simp only [render, ih h, Fragment.isEmpty_empty, if_true]
  | nil _ outer field s => rfl
  | cons key c rest _ ihrest h outer field s =>
    obtain ⟨hc, hrest⟩ := allEmpty_cons.mp h
    rw [renderChildren, if_pos hc, ihrest hrest]

theorem isEmpty_assemble {outer : Precedence} {k : Connective} {parts : List Fragment}
    (hparts : ∀ f ∈ parts, f.isEmpty = false) :
    (assemble outer k parts).isEmpty = parts.isEmpty := by
  by_cases hne : parts = []
  · subst hne; rfl
  · have hjoin : (Fragment.join k.separator parts).isEmpty = false :=
      Fragment.isEmpty_join hne hparts
    have hpar : (Fragment.join k.separator parts).parenthesized.isEmpty = false :=
      Fragment.isEmpty_append_right _ (Fragment.isEmpty_text (by decide))
    simp only [assemble]
    split <;> simp [*]

/-- **Only a condition that tests nothing has no text**, as long as nobody supplies empty text. -/
theorem isEmpty_render (c : Condition) (hc : c.All Comparator.Writes) :
    ∀ outer field s, (c.render outer field s).1.isEmpty = c.isEmpty := by
  induction c using childInduction (Q := fun children =>
    AllIn Comparator.Writes children → ∀ outer field s,
      (∀ f ∈ (renderChildren outer field children s).1, f.isEmpty = false) ∧
        (renderChildren outer field children s).1.isEmpty = allEmpty children) with
  | scalar v =>
    intro outer field s
    rw [isEmpty]
    exact Fragment.isEmpty_append_right _ (Fragment.isEmpty_param _)
  | compare k => intro outer field s; rw [All] at hc; exact hc.isEmpty_render field s
  | junction k children ih =>
    intro outer field s
    rw [All] at hc
    obtain ⟨hparts, hempty⟩ := ih hc (childPrecedence outer k children) field s
    rw [render, isEmpty, isEmpty_assemble hparts, hempty]
  | not c ih =>
    intro outer field s
    rw [All] at hc
    have hin := ih hc .not field s
    rw [render, isEmpty]
    by_cases hce : c.isEmpty = true
    · simp [hin, hce]
    · rw [Bool.not_eq_true] at hce
      simp [hin, hce, Fragment.isEmpty_text_append]
  | nil _ outer field s => exact ⟨by simp [renderChildren], rfl⟩
  | cons key c rest ih ihrest hall outer field s =>
    rw [AllIn] at hall
    rw [renderChildren, allEmpty]
    by_cases hce : c.isEmpty = true
    · rw [if_pos hce, hce, Bool.true_and]
      exact ihrest hall.2 outer field s
    · rw [Bool.not_eq_true] at hce
      have hfirst : (c.render outer (joinField field key) s).1.isEmpty = false := by
        rw [ih hall.1, hce]
      simp only [hce, hfirst, Bool.false_eq_true, if_false, List.forall_mem_cons,
        List.isEmpty_cons, Bool.false_and, true_and, and_true]
      exact (ihrest hall.2 outer field _).1

end Condition

end GraphQuery
