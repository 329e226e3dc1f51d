import GraphQuery.Clause
import GraphQuery.Proofs.Condition.Stores

/-!
# Filters that test nothing

A condition without comparators from elsewhere has no text just if it tests nothing, and then it
stores nothing either. A filter by such a condition is no clause: attaching it leaves a statement as
it is, while every other filter is one more clause (`attach_filter_eq_self_iff`).
-/

namespace GraphQuery

theorem Comparator.IsBuiltIn.writes {c : Comparator} (h : c.IsBuiltIn) : c.Writes := by
  cases c with
  | custom render => exact h.elim
  | _ => trivial

namespace Condition

variable {c : Condition}

theorem isEmpty_render_of_builtIn (hc : c.All Comparator.IsBuiltIn) (outer : Precedence)
    (field : String) (s : Scope) : (c.render outer field s).1.isEmpty = c.isEmpty :=
  isEmpty_render c (All.mono (fun _ h => h.writes) c hc) outer field s

end Condition

namespace Clause

variable {c : Condition}

theorem filter_of_isEmpty (h : c.isEmpty) (next : Nat) :
    filter c next = (⟨.empty, .empty⟩, next) := by
  unfold filter
  rw [c.render_of_isEmpty h]
  rfl

theorem isEmpty_filter (hc : c.All Comparator.IsBuiltIn) (next : Nat) :
    (filter c next).1.fragment.isEmpty = c.isEmpty := by
  have htext : (c.render .none "" (.fresh next)).1.isEmpty = c.isEmpty :=
    Condition.isEmpty_render_of_builtIn hc .none "" _
  simp only [filter, htext]
  cases c.isEmpty with
  | true => rfl
  | false => exact Fragment.isEmpty_text_append (by decide) _

end Clause

namespace Statement

theorem attach_blank (st : Statement) : st.attach ⟨.empty, .empty⟩ = st := rfl

theorem attach_of_text (st : Statement) {clause : Clause} (h : clause.fragment.isEmpty = false) :
    (st.attach clause).clauses = st.clauses ++ [clause.fragment] := by
  unfold attach
  rw [if_neg (Bool.eq_false_iff.mp h)]

/-- **Only a filter that tests something is a clause.** Anywhere in a query and with any table, the
text of a condition is empty if and only if nothing is tested in it, and then nothing is stored. A
filter leaves a statement as it is, with its clauses and its parameters, if and only if nothing is
tested; otherwise it adds one clause. -/
theorem attach_filter_eq_self_iff {c : Condition} (hc : c.All Comparator.IsBuiltIn) :
    (∀ outer field s, ((c.render outer field s).1 = .empty ↔ c.isEmpty) ∧
      (c.isEmpty → (c.render outer field s).2 = s)) ∧
    ∀ (st : Statement) (next : Nat),
      (st.attach (Clause.filter c next).1 = st ↔ c.isEmpty) ∧
      (c.isEmpty = false → ∃ f : Fragment, f.isEmpty = false ∧
        (st.attach (Clause.filter c next).1).clauses = st.clauses ++ [f]) := by
  have hadds : c.isEmpty = false → ∀ (st : Statement) (next : Nat),
      (Clause.filter c next).1.fragment.isEmpty = false ∧
        (st.attach (Clause.filter c next).1).clauses =
          st.clauses ++ [(Clause.filter c next).1.fragment] := by
    intro hlive st next
    have htext : (Clause.filter c next).1.fragment.isEmpty = false := by
      rw [Clause.isEmpty_filter hc, hlive]
    exact ⟨htext, attach_of_text st htext⟩
  constructor
  · intro outer field s
    refine ⟨?_, fun hempty => ?_⟩
    · rw [← Fragment.isEmpty_iff, Condition.isEmpty_render_of_builtIn hc]
    · rw [c.render_of_isEmpty hempty]
  · intro st next
    refine ⟨⟨fun hself => ?_, fun hempty => ?_⟩, fun hlive => ⟨_, hadds hlive st next⟩⟩
    · -- one more clause would make the list of clauses longer
      rw [← Bool.not_eq_false]
      intro hlive
      have hclauses := (hadds hlive st next).2
      rw [hself] at hclauses
      simpa using congrArg List.length hclauses
    · rw [Clause.filter_of_isEmpty hempty]
      exact attach_blank st

/-- Groups in groups, with a negation among them and no test anywhere. -/
def hollow : Condition :=
  .and [("a", .not (.or [.xor [], .and []])), ("b", .or [.not (.and [("c", .or [])])])]

/-- The `hollow` condition beside one test for a label. -/
def labelled : Condition :=
  .or [hollow, .not (.and [("n", .compare (.hasLabel "Person"))]), hollow]

theorem attach_filter_eq_self_iff_hollow :
    (hollow.All Comparator.IsBuiltIn ∧ hollow.isEmpty ∧
      ∀ (st : Statement) next, st.attach (Clause.filter hollow next).1 = st) ∧
    labelled.All Comparator.IsBuiltIn ∧
      ∀ (st : Statement) next,
        (st.attach (Clause.filter labelled next).1).clauses.length = st.clauses.length + 1 := by
  have hhollow : hollow.All Comparator.IsBuiltIn := by
    simp [hollow, Condition.or, Condition.xor, Condition.and, Condition.All, Condition.AllIn]
  have hlabelled : labelled.All Comparator.IsBuiltIn := by
    simp [labelled, hhollow, Condition.or, Condition.and, Condition.All, Condition.AllIn,
      Comparator.IsBuiltIn]
  have hempty : hollow.isEmpty := by decide
  refine ⟨⟨hhollow, hempty, fun st next => ?_⟩, hlabelled, fun st next => ?_⟩
  · exact ((attach_filter_eq_self_iff hhollow).2 st next).1.mpr hempty
  · obtain ⟨f, -, hclauses⟩ := ((attach_filter_eq_self_iff hlabelled).2 st next).2 (by decide)
    rw [hclauses, List.length_append, List.length_singleton]

end Statement

end GraphQuery
