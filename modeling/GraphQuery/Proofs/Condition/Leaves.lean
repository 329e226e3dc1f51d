import GraphQuery.Proofs.Condition.Level
import GraphQuery.Proofs.Condition.Stores
import GraphQuery.Proofs.Fragment.Marks
import GraphQuery.Proofs.Parameter.Requests
import Mathlib.Data.List.TakeWhile

/-!
# The leaves of a condition

The leaves of a condition stand in its text from left to right, each as it is written for its own
path, with nothing but text in between. `render_leaves`: what is stored is what the leaves ask for
one after another, and all of it is mentioned in the text in that order.
-/

namespace GraphQuery

/-! ## Fragments within a text -/

/-- Fragments in order, with text before, between and after them. -/
inductive Woven : List Fragment → List Mark → Prop
  | nil (text : List Char) : Woven [] (text.map .char)
  | cons (text : List Char) {f : Fragment} {fs : List Fragment} {rest : List Mark} :
      Woven fs rest → Woven (f :: fs) (text.map .char ++ f.marks ++ rest)

namespace Woven

variable {fs gs : List Fragment} {m n : List Mark}

theorem text_append (h : Woven fs m) (text : List Char) : Woven fs (text.map .char ++ m) := by
  cases h with
  | nil t =>
    rw [← List.map_append]
    exact .nil (text ++ t)
  | cons t hrest =>
    rw [List.append_assoc, ← List.append_assoc, ← List.map_append, ← List.append_assoc]
    exact .cons (text ++ t) hrest

theorem append (h : Woven fs m) (h' : Woven gs n) : Woven (fs ++ gs) (m ++ n) := by
  induction h with
  | nil text => exact h'.text_append text
  | cons text _ ih =>
    rw [List.cons_append, List.append_assoc]
    exact .cons text ih

theorem append_text (h : Woven fs m) (text : List Char) : Woven fs (m ++ text.map .char) := by
  have happend := h.append (.nil text)
  rwa [List.append_nil] at happend

theorem single (f : Fragment) : Woven [f] f.marks := by
  have hcons := Woven.cons [] (f := f) (.nil [])
  simpa using hcons

theorem join_parts {separator : String} {f : Fragment} {others : List Fragment}
    (h : Woven fs f.marks) (h' : Woven gs (Fragment.join separator others).marks) :
    Woven (fs ++ gs) (Fragment.join separator (f.parts ++ others)).marks := by
  by_cases hf : f.isEmpty
  · have hboth := h.append h'
    rw [Fragment.isEmpty_iff.mp hf] at hboth ⊢
    exact hboth
  · rw [Fragment.parts, if_neg hf, List.singleton_append]
    by_cases hothers : others = []
    · subst hothers
      have hboth := h.append h'
      rwa [Fragment.join_nil, Fragment.marks_empty, List.append_nil] at hboth
    · rw [Fragment.join_cons separator f hothers, Fragment.marks_append, Fragment.marks_append,
        Fragment.marks_text]
      exact h.append (h'.text_append _)

theorem parenthesized {f : Fragment} (h : Woven fs f.marks) : Woven fs f.parenthesized.marks := by
  rw [Fragment.parenthesized, Fragment.marks_append, Fragment.marks_append, Fragment.marks_text,
    Fragment.marks_text]
  exact (h.text_append _).append_text _

end Woven

theorem Woven.handles_eq {fs : List Fragment} {f : Fragment} (h : Woven fs f.marks) :
    f.handles = fs.flatMap Fragment.handles := by
  have key : ∀ {fs m}, Woven fs m → m.filterMap Mark.handle? = fs.flatMap Fragment.handles := by
    intro fs m h
    have htext : ∀ text : List Char, (text.map Mark.char).filterMap Mark.handle? = [] := by
      intro text
      simp [List.filterMap_map, Mark.handle?]
    induction h with
    | nil text => exact htext text
    | cons text _ ih =>
      rw [List.filterMap_append, List.filterMap_append, htext, ih, ← Fragment.handles_eq_marks]
      rfl
  rw [Fragment.handles_eq_marks, key h]

/-! ## Paths -/

/-- The last segment of a path, dots being what divides it. -/
def IsLastSegment (path name : String) : Prop :=
  '.' ∉ name.toList ∧ (name = path ∨ ∃ before, before ++ "." ++ name = path)

theorem Comparator.isLastSegment_parameterName (path : String) :
    IsLastSegment path (parameterName path) := by
  have hsplit := List.takeWhile_append_dropWhile (p := (· ≠ '.')) (l := path.toList.reverse)
  have hname : (parameterName path).toList.reverse = path.toList.reverse.takeWhile (· ≠ '.') := by
    rw [parameterName, String.toList_ofList, List.reverse_reverse]
  constructor
  · rw [← List.mem_reverse, hname]
    intro hdot
    simpa using List.mem_takeWhile_imp hdot
  · rw [← hname] at hsplit
    cases hrest : path.toList.reverse.dropWhile (· ≠ '.') with
    | nil =>
      left
      rw [hrest, List.append_nil] at hsplit
      exact String.toList_injective (List.reverse_injective hsplit)
    | cons c before =>
      right
      have hc : c = '.' := by
        have hhead := List.head?_dropWhile_not (· ≠ '.') path.toList.reverse
        rw [hrest] at hhead
        simpa using hhead
      rw [hrest, hc] at hsplit
      refine ⟨String.ofList before.reverse, String.toList_injective (List.reverse_injective ?_)⟩
      rw [← hsplit]
      simp

namespace Condition

/-- Where keys lead from a field, those that are empty leading nowhere. -/
def pathOf (field : String) (keys : List String) : String :=
  ".".intercalate ((field :: keys).filter (· ≠ ""))

theorem pathOf_nil (field : String) : pathOf field [] = field := by
  by_cases h : field = "" <;> simp [pathOf, h]

theorem pathOf_joinField (field key : String) (keys : List String) :
    pathOf (joinField field key) keys = pathOf field (key :: keys) := by
  by_cases hfield : field = ""
  · simp [pathOf, hfield]
  · by_cases hkey : key = ""
    · simp [pathOf, hkey, hfield]
    · have hboth : field ++ "." ++ key ≠ "" := by simp [hfield]
      simp only [pathOf, joinField, hkey, hfield, if_false, List.filter_cons, ne_eq, hboth,
        not_false_eq_true, decide_true, if_true, String.intercalate_cons_cons]
      cases keys.filter (· ≠ "") <;> simp [String.append_assoc]

end Condition

/-! ## Leaves -/

inductive Leaf
  | value (v : Json)
  | test (comparator : Comparator)

def Operand.requests (name : String) : Operand → List (String × Json)
  | .value v => [(name, v)]
  | .reference _ => []

/-- The values that a comparator has for the table, with the names that it asks for. -/
def Comparator.requests (path : String) : Comparator → List (String × Json)
  | .binary _ operand => operand.requests (parameterName path)
  | .between lower upper _ _ =>
    lower.requests ("lower_" ++ parameterName path) ++
      upper.requests ("upper_" ++ parameterName path)
  | _ => []

namespace Leaf

def requests (path : String) : Leaf → List (String × Json)
  | .value v => [(Comparator.parameterName path, v)]
  | .test comparator => comparator.requests path

def render (path : String) : Leaf → Scope → Fragment × Scope
  | .value v => Condition.render .none path (.scalar v)
  | .test comparator => comparator.render path

def IsBuiltIn : Leaf → Prop
  | .value _ => True
  | .test comparator => comparator.IsBuiltIn

end Leaf

namespace Condition

mutual

/-- The leaves from left to right, each with the keys on the way to it. -/
def leaves : Condition → List (List String × Leaf)
  | .scalar v => [([], .value v)]
  | .compare comparator => [([], .test comparator)]
  | .junction _ children => childLeaves children
  | .not inner => inner.leaves

def childLeaves : List (String × Condition) → List (List String × Leaf)
  | [] => []
  | (key, c) :: rest => c.leaves.map (fun leaf => (key :: leaf.1, leaf.2)) ++ childLeaves rest

end

def requests (field : String) (c : Condition) : List (String × Json) :=
  c.leaves.flatMap fun leaf => leaf.2.requests (pathOf field leaf.1)

/-- The texts of leaves, each written for its own path, in the order in which they store. -/
def renderLeaves (field : String) : List (List String × Leaf) → Scope → List Fragment × Scope
  | [], s => ([], s)
  | leaf :: rest, s =>
    let first := leaf.2.render (pathOf field leaf.1) s
    let others := renderLeaves field rest first.2
    (first.1 :: others.1, others.2)

end Condition

/-! ## What a leaf stores -/

theorem Operand.render_requests (name : String) (operand : Operand) (s : Scope) :
    ((operand.render name s).1.handles, (operand.render name s).2) =
      s.storeAll (operand.requests name) := by
  cases operand with
  | value v => rfl
  | reference text =>
    rw [render, Fragment.handles_text]
    rfl

theorem Comparator.render_requests {c : Comparator} (hc : c.IsBuiltIn) (path : String) (s : Scope) :
    ((c.render path s).1.handles, (c.render path s).2) = s.storeAll (c.requests path) := by
  cases c with
  | binary operator operand =>
    rw [requests, ← Operand.render_requests]
    simp [render]
  | between lower upper lowerInclusive upperInclusive =>
    rw [requests, Scope.storeAll_append, ← Operand.render_requests, ← Operand.render_requests]
    simp [render]
  | hasLabel label | isPresent | isNull => simp [render, requests, Scope.storeAll]
  | custom render => exact hc.elim

theorem Leaf.render_requests {leaf : Leaf} (hleaf : leaf.IsBuiltIn) (path : String) (s : Scope) :
    ((leaf.render path s).1.handles, (leaf.render path s).2) =
      s.storeAll (leaf.requests path) := by
  cases leaf with
  | value v => simp [render, Condition.render, requests, Scope.storeAll]
  | test comparator => exact Comparator.render_requests hleaf path s

namespace Condition

theorem renderLeaves_requests {field : String} {ls : List (List String × Leaf)}
    (hls : ∀ leaf ∈ ls, leaf.2.IsBuiltIn) : ∀ s : Scope,
    ((renderLeaves field ls s).1.flatMap Fragment.handles, (renderLeaves field ls s).2) =
      s.storeAll (ls.flatMap fun leaf => leaf.2.requests (pathOf field leaf.1)) := by
  induction ls with
  | nil => exact fun s => rfl
  | cons leaf rest ih =>
    intro s
    rw [List.forall_mem_cons] at hls
    have hfirst := Leaf.render_requests hls.1 (pathOf field leaf.1) s
    rw [List.flatMap_cons, Scope.storeAll_append, ← hfirst, ← ih hls.2]
    rfl

/-! ## Leaves in the text -/

theorem renderLeaves_append (field : String) (ls ls' : List (List String × Leaf)) : ∀ s : Scope,
    renderLeaves field (ls ++ ls') s =
      ((renderLeaves field ls s).1 ++ (renderLeaves field ls' (renderLeaves field ls s).2).1,
        (renderLeaves field ls' (renderLeaves field ls s).2).2) := by
  induction ls with
  | nil => exact fun s => rfl
  | cons leaf rest ih =>
    intro s
    simp only [List.cons_append, renderLeaves, ih]

theorem renderLeaves_joinField (field key : String) (ls : List (List String × Leaf)) :
    ∀ s : Scope, renderLeaves (joinField field key) ls s =
      renderLeaves field (ls.map fun leaf => (key :: leaf.1, leaf.2)) s := by
  induction ls with
  | nil => exact fun s => rfl
  | cons leaf rest ih =>
    intro s
    simp only [List.map_cons, renderLeaves, pathOf_joinField, ih]

theorem isBuiltIn_of_mem_leaves (c : Condition) (hc : c.All Comparator.IsBuiltIn) :
    ∀ leaf ∈ c.leaves, leaf.2.IsBuiltIn := by
  induction c using childInduction (Q := fun children => AllIn Comparator.IsBuiltIn children →
    ∀ leaf ∈ childLeaves children, leaf.2.IsBuiltIn) with
  | scalar v => simp [leaves, Leaf.IsBuiltIn]
  | compare comparator => simpa [leaves, Leaf.IsBuiltIn, All] using hc
  | junction k children ih => exact ih hc
  | not inner ih => exact ih hc
  | nil _ leaf hleaf => cases hleaf
  | cons key c rest ih ihrest hall leaf hleaf =>
    rw [AllIn] at hall
    rw [childLeaves, List.mem_append, List.mem_map] at hleaf
    rcases hleaf with ⟨own, hown, rfl⟩ | hleaf
    · exact ih hall.1 own hown
    · exact ihrest hall.2 leaf hleaf

/-- A condition and its leaves leave the same behind, and the leaves are in the text. -/
theorem render_woven (c : Condition) : ∀ outer field (s : Scope),
    Woven (renderLeaves field c.leaves s).1 (c.render outer field s).1.marks ∧
      (c.render outer field s).2 = (renderLeaves field c.leaves s).2 := by
  induction c using childInduction (Q := fun children => ∀ k : Connective, ∀ outer field (s : Scope),
    Woven (renderLeaves field (childLeaves children) s).1
        (Fragment.join k.separator (renderChildren outer field children s).1).marks ∧
      (renderChildren outer field children s).2 =
        (renderLeaves field (childLeaves children) s).2) with
  | scalar v =>
    intro outer field s
    rw [leaves, renderLeaves, pathOf_nil]
    exact ⟨.single _, rfl⟩
  | compare comparator =>
    intro outer field s
    rw [leaves, renderLeaves, pathOf_nil]
    exact ⟨.single _, rfl⟩
  | junction k children ih =>
    intro outer field s
    obtain ⟨htexts, hscopes⟩ := ih k (childPrecedence outer k children) field s
    rw [leaves, render, assemble]
    refine ⟨?_, hscopes⟩
    split
    · exact htexts.parenthesized
    · exact htexts
  | not inner ih =>
    intro outer field s
    obtain ⟨htext, hscope⟩ := ih .not field s
    rw [leaves, render]
    refine ⟨?_, hscope⟩
    by_cases hempty : (inner.render .not field s).1.isEmpty
    · simpa only [hempty, if_true] using htext
    · simp only [hempty, if_false, Bool.false_eq_true, Fragment.marks_append, Fragment.marks_text]
      exact htext.text_append _
  | nil k outer field s => exact ⟨.nil [], rfl⟩
  | cons key c rest ih ihrest k outer field s =>
    obtain ⟨htext, hscope⟩ := ih outer (joinField field key) s
    obtain ⟨htexts, hscopes⟩ := ihrest k outer field (c.render outer (joinField field key) s).2
    rw [hscope] at htexts hscopes
    rw [renderLeaves_joinField] at htext hscope htexts hscopes
    simp only [childLeaves, renderLeaves_append, renderChildren_cons, hscope]
    exact ⟨htext.join_parts htexts, hscopes⟩

/-- **Leaves are written and stored in order.** The leaves stand in the text from left to right,
each for the path that its keys lead to. The table keeps its parameters, and behind them come those
that the leaves ask for: one for every value and for every operand that is no reference, with that
value and with the name that storing gives to the last segment of the path, in the order in which
the text mentions them. -/
theorem render_leaves (c : Condition) (hc : c.All Comparator.IsBuiltIn) (outer : Precedence)
    (field : String) (s : Scope) :
    Woven (renderLeaves field c.leaves s).1 (c.render outer field s).1.marks ∧
      ((c.render outer field s).1.handles, (c.render outer field s).2) =
        s.storeAll (c.requests field) ∧
      (∃ stored, (c.render outer field s).2.table.entries = s.table.entries ++ stored ∧
        stored.map (·.handle) = (c.render outer field s).1.handles ∧
        stored.map (·.value) = (c.requests field).map (·.2) ∧
        stored.map (·.name) =
          Naming.uniqueNames s.table.names ((c.requests field).map (·.1))) ∧
      ∀ path, IsLastSegment path (Comparator.parameterName path) := by
  obtain ⟨htext, hscope⟩ := render_woven c outer field s
  have hstored : ((c.render outer field s).1.handles, (c.render outer field s).2) =
      s.storeAll (c.requests field) := by
    rw [htext.handles_eq, hscope]
    exact renderLeaves_requests (isBuiltIn_of_mem_leaves c hc) s
  obtain ⟨stored, hentries, hhandles, hvalues, hnames⟩ :=
    Scope.exists_entries_storeAll (c.requests field) s
  rw [← hstored] at hentries hhandles
  exact ⟨htext, hstored, ⟨stored, hentries, hhandles, hvalues, hnames⟩,
    Comparator.isLastSegment_parameterName⟩

/-- A range and two tests below a negation, with groups that do nothing. -/
def layered : Condition :=
  .not (.or [.and [("n", .and [("age", .compare (.between (.value (.number (.int 18)))
      (.value (.number (.int 65))) true false)), ("none", .xor [])])],
    .xor [.and [("n.name", .scalar (.string "Ada")),
      ("n.boss", .compare (.binary .equals (.reference "m.boss")))]]])

def occupied : ParameterTable :=
  ⟨[⟨⟨1⟩, "upperAge", .null⟩]⟩

theorem render_leaves_layered : layered.All Comparator.IsBuiltIn ∧
    layered.leaves.map (fun leaf => pathOf "" leaf.1) = ["n.age", "n.name", "n.boss"] ∧
    ∃ stored, (layered.render .none "" ⟨occupied, 2⟩).2.table.entries = occupied.entries ++ stored ∧
      stored.map (·.handle) = (layered.render .none "" ⟨occupied, 2⟩).1.handles ∧
      stored.map (·.value) = [.number (.int 18), .number (.int 65), .string "Ada"] ∧
      stored.map (·.name) = ["lowerAge", "upperAge2", "name"] := by
  have hc : layered.All Comparator.IsBuiltIn := by
    simp [layered, Condition.or, Condition.and, Condition.xor, All, AllIn, Comparator.IsBuiltIn]
  obtain ⟨-, -, ⟨stored, hentries, hhandles, hvalues, hnames⟩, -⟩ :=
    render_leaves layered hc .none "" ⟨occupied, 2⟩
  refine ⟨hc, by decide +kernel, stored, hentries, hhandles, hvalues, hnames.trans ?_⟩
  have hrequests : (layered.requests "").map (·.1) = ["lower_age", "upper_age", "name"] := by
    decide +kernel
  rw [hrequests]
  decide +kernel

end Condition

end GraphQuery
