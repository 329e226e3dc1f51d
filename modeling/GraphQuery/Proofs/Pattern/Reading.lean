import GraphQuery.Proofs.Pattern.Alike
import GraphQuery.Proofs.Pattern.Arguments
import GraphQuery.Proofs.Pattern.Grammar

/-!
# Reading a pattern back

A pattern whose conditions are expanded is read back from its fragment (`readPattern?_build`). A
pattern that was made from arguments keeps them through every change of its mode (`Made.keeps`),
so what is read are the arguments, with the handles that the table of the pattern has.
-/

namespace GraphQuery

open Text

namespace Shape

def separator : Shape → Char
  | .node => ':'
  | .relation _ _ => '|'

def length : Shape → Option PathLength
  | .node => none
  | .relation _ length => length

theorem labelSeparator_toList (shape : Shape) :
    shape.labelSeparator.toList = [shape.separator] := by
  cases shape <;> simp [labelSeparator, separator]

theorem lengthText_toList (shape : Shape) :
    shape.lengthText.toList = Pattern.lengthText shape.length := by
  match shape with
  | .node => rfl
  | .relation _ none => rfl
  | .relation _ (some length) => rfl

end Shape

namespace Binding

def entries : Binding → List (String × Handle)
  | .expanded entries => entries
  | _ => []

/-- The binding of conditions in expanded mode: none if there are no conditions. -/
def IsExpanded (binding : Binding) : Prop :=
  binding = if binding.entries = [] then .unbound else .expanded binding.entries

end Binding

namespace PatternConditions

variable {c : PatternConditions}

theorem marks_render (h : c.binding.IsExpanded) :
    c.render.marks = Pattern.conditionsMarks true c.binding.entries := by
  unfold Binding.IsExpanded at h
  unfold render Pattern.conditionsMarks
  by_cases hentries : c.binding.entries = []
  · rw [if_pos hentries] at h
    rw [h]
    rfl
  · rw [if_neg hentries] at h
    rw [h, if_neg (by rwa [← h])]
    simp [Fragment.marks_join, Binding.entries, Function.comp_def]

theorem isEmpty_render_iff (h : c.binding.IsExpanded) :
    c.render.isEmpty ↔ c.binding.entries = [] := by
  constructor
  · intro hempty
    have hmarks := marks_render h
    rw [Fragment.isEmpty_iff.mp hempty] at hmarks
    exact Pattern.conditionsMarks_eq_nil_iff.mp hmarks.symm
  · intro hentries
    unfold Binding.IsExpanded at h
    rw [if_pos hentries] at h
    rw [render, h]
    rfl

end PatternConditions

namespace Pattern

def heading (p : Pattern) : Head :=
  ⟨p.name, p.labels, p.shape.length⟩

theorem head_toList (p : Pattern) : p.head.toList = headText p.shape.separator p.heading := by
  unfold head headText heading labelsText
  by_cases hlabels : p.labels = []
  · simp [hlabels, Shape.lengthText_toList]
  · simp [hlabels, Shape.lengthText_toList, Shape.labelSeparator_toList, String.toList_intercalate,
      Function.comp_def]

section
variable {p : Pattern} (h : p.conditions.binding.IsExpanded)
include h

theorem marks_inner :
    p.inner.marks = contentMarks p.shape.separator p.heading p.conditions.binding.entries := by
  unfold inner contentMarks
  rw [← head_toList]
  by_cases hentries : p.conditions.binding.entries = []
  · rw [if_pos ((PatternConditions.isEmpty_render_iff h).mpr hentries), Fragment.marks_text,
      conditionsMarks_eq_nil_iff.mpr hentries, List.append_nil]
  · rw [if_neg (mt (PatternConditions.isEmpty_render_iff h).mp hentries), Fragment.marks_append,
      Fragment.marks_text, PatternConditions.marks_render h]
    by_cases hhead : p.head = ""
    · simp [hhead]
    · simp [hhead, conditionsMarks_false hentries]

/-- What stands between the arrows of a relation. -/
def bracketed (p : Pattern) : Fragment :=
  if p.inner.isEmpty then .empty else .text "[" ++ p.inner ++ .text "]"

theorem readBrackets?_bracketed (hname : p.name = "" ∨ isIdentifier p.name.toList)
    (hseparator : p.shape.separator = '|') (rest : List Mark) :
    readBrackets? (p.bracketed.marks ++ .char '-' :: rest) =
      some ((p.heading, p.conditions.binding.entries), .char '-' :: rest) := by
  unfold bracketed
  by_cases hempty : p.inner.isEmpty
  · have hmarks := marks_inner h
    rw [Fragment.isEmpty_iff.mp hempty] at hmarks
    obtain ⟨hhead, hentries⟩ := eq_nil_of_contentMarks hmarks.symm
    rw [if_pos hempty, hhead, hentries]
    rfl
  · have hcontent : readContent? '|' (p.inner.marks ++ .char ']' :: .char '-' :: rest) =
        some ((p.heading, p.conditions.binding.entries), .char ']' :: .char '-' :: rest) := by
      rw [marks_inner h, hseparator]
      exact readContent?_contentMarks hname (.inr rfl) _ (.inr rfl) _
    have hmarks : (.text "[" ++ p.inner ++ .text "]" : Fragment).marks ++ .char '-' :: rest =
        .char '[' :: (p.inner.marks ++ .char ']' :: .char '-' :: rest) := by simp
    rw [if_neg hempty, hmarks]
    show (readContent? '|' _).bind _ = _
    rw [hcontent]
    rfl

theorem readNode?_inner (hname : p.name = "" ∨ isIdentifier p.name.toList)
    (hshape : p.shape = .node) : readNode? (p.inner.marks ++ [.char ')']) =
      some ⟨.node, p.name, p.labels, p.conditions.binding.entries⟩ := by
  have hcontent : readContent? ':' (p.inner.marks ++ [.char ')']) =
      some ((p.heading, p.conditions.binding.entries), [.char ')']) := by
    rw [marks_inner h, hshape]
    exact readContent?_contentMarks hname (.inl rfl) _ (.inl rfl) _
  have hlength : p.heading.length = none := by
    rw [heading, hshape]
    rfl
  rw [readNode?, hcontent]
  show (if p.heading.length = none ∧ _ then _ else _) = _
  rw [if_pos ⟨hlength, rfl⟩]
  rfl

/-- **A pattern with expanded conditions is read back from its fragment.** -/
theorem readPattern?_build (hname : p.name = "" ∨ isIdentifier p.name.toList) :
    readPattern? p.build.marks =
      some ⟨p.shape, p.name, p.labels, p.conditions.binding.entries⟩ := by
  cases hshape : p.shape with
  | node =>
    have hmarks : p.build.marks = .char '(' :: (p.inner.marks ++ [.char ')']) := by
      simp [build, hshape]
    rw [hmarks]
    exact readNode?_inner h hname hshape
  | relation direction length =>
    have hbrackets := readBrackets?_bracketed h hname (by rw [hshape]; rfl)
    have hlength : p.heading.length = length := by
      rw [heading, hshape]
      rfl
    have hrelation : ∀ incoming rest, direction? incoming (.char '-' :: rest) = some direction →
        readRelation? incoming (p.bracketed.marks ++ .char '-' :: rest) =
          some ⟨.relation direction length, p.name, p.labels, p.conditions.binding.entries⟩ := by
      intro incoming rest hdirection
      rw [readRelation?, hbrackets]
      show (direction? incoming (.char '-' :: rest)).map _ = _
      rw [hdirection, hlength]
      rfl
    have hmarks : p.build.marks = direction.arrows.1.toList.map .char ++
        (p.bracketed.marks ++ direction.arrows.2.toList.map .char) := by
      simp [build, hshape, bracketed]
    rw [hmarks]
    cases direction with
    | incoming => exact hrelation true [] rfl
    | outgoing => exact hrelation false [.char '>'] rfl
    | either => exact hrelation false [] rfl

end

end Pattern

/-! ## Patterns that are made from arguments -/

namespace PatternConditions

theorem values_allocateFields (fields : List (String × Json)) (s : Scope) :
    (allocateFields fields s).2.table.entries.map (·.value) =
      s.table.entries.map (·.value) ++ fields.map (·.2) := by
  obtain ⟨stored, hentries, -, hvalues, -⟩ := Scope.exists_entries_storeAll fields s
  rw [(allocateFields_eq_storeAll fields s).2, hentries, List.map_append, hvalues]

/-- Expanded conditions with their parameters: one for each field, in order, and no others. -/
structure Expanded (c : PatternConditions) (t : ParameterTable) : Prop where
  binding : c.binding.IsExpanded
  keys : c.binding.entries.map (·.1) = c.fields.map (·.1)
  handles : c.binding.entries.map (·.2) = t.handles
  values : t.entries.map (·.value) = c.fields.map (·.2)

theorem expanded_rebind {c : PatternConditions} {s : Scope} (hc : c.handles = s.table.handles)
    (hmode : c.mode = .expanded) : (c.rebind s).1.Expanded (c.rebind s).2.table := by
  have hkeys := keys_allocateFields c.fields ⟨.empty, s.next⟩
  have hvalues := values_allocateFields c.fields ⟨.empty, s.next⟩
  have hhandles := (allocateFields_stores c.fields ⟨.empty, s.next⟩).handles
  unfold rebind
  rw [release_eq_empty hc, hmode]
  by_cases hfields : c.fields = []
  · rw [if_pos hfields]
    exact ⟨rfl, by rw [hfields]; rfl, rfl, by rw [hfields]; rfl⟩
  · have hentries : (allocateFields c.fields ⟨.empty, s.next⟩).1 ≠ [] := by
      intro hnil
      rw [hnil] at hkeys
      exact hfields (List.map_eq_nil_iff.mp hkeys.symm)
    rw [if_neg hfields]
    exact ⟨(if_neg hentries).symm, hkeys, hhandles.symm, hvalues⟩

end PatternConditions

namespace Pattern

/-- The patterns of a shape that come from arguments, by any changes of their mode. -/
inductive Made (shape : Shape) (args : PatternArguments) : Pattern → Prop
  | ofArguments (next : Nat) : Made shape args (ofArguments shape args next).1
  | setMode {p : Pattern} (mode : ConditionMode) (next : Nat) : Made shape args p →
      Made shape args (p.setMode mode next).1

/-- What a pattern keeps of its arguments. -/
structure Keeps (shape : Shape) (args : PatternArguments) (p : Pattern) : Prop where
  shape : p.shape = shape
  name : p.name = args.name
  labels : p.labels = args.labels
  fields : p.conditions.fields = args.conditions
  handles : p.conditions.handles = p.table.handles
  expanded : p.conditions.mode = .expanded → p.conditions.Expanded p.table

theorem keeps_ofArguments (shape : Shape) (args : PatternArguments) (next : Nat) :
    Keeps shape args (ofArguments shape args next).1 where
  shape := rfl
  name := rfl
  labels := rfl
  fields := PatternConditions.fields_rebind _ _
  handles := (PatternConditions.rebind_stores rfl).handles.symm
  expanded := fun _ => PatternConditions.expanded_rebind rfl rfl

theorem Keeps.setMode {shape : Shape} {args : PatternArguments} {p : Pattern}
    (h : Keeps shape args p) (mode : ConditionMode) (next : Nat) :
    Keeps shape args (p.setMode mode next).1 := by
  unfold Pattern.setMode PatternConditions.setMode
  by_cases hmode : p.conditions.mode = mode
  · rw [if_pos hmode]
    exact h
  · rw [if_neg hmode]
    have hold : PatternConditions.handles { p.conditions with mode } = p.table.handles := h.handles
    refine ⟨h.shape, h.name, h.labels, ?_, ?_, fun hexpanded => ?_⟩
    · exact (PatternConditions.fields_rebind _ _).trans h.fields
    · exact (PatternConditions.rebind_stores hold).handles.symm
    · exact PatternConditions.expanded_rebind hold
        ((PatternConditions.mode_rebind _ _).symm.trans hexpanded)

theorem Made.keeps {shape : Shape} {args : PatternArguments} {p : Pattern}
    (h : Made shape args p) : Keeps shape args p := by
  induction h with
  | ofArguments next => exact keeps_ofArguments shape args next
  | setMode mode next _ ih => exact ih.setMode mode next

section
variable {shape : Shape} {args : PatternArguments} {p : Pattern}

theorem readPattern?_build_of_keeps (hargs : args.validate = .ok args) (h : Keeps shape args p)
    (hmode : p.conditions.mode = .expanded) : readPattern? p.build.marks =
      some ⟨shape, args.name, args.labels, p.conditions.binding.entries⟩ := by
  have hname := (PatternArguments.validate_eq_ok_iff.mp hargs).1
  rw [← h.name] at hname
  rw [readPattern?_build (h.expanded hmode).binding hname, h.shape, h.name, h.labels]

theorem Keeps.keys (h : Keeps shape args p) (hmode : p.conditions.mode = .expanded) :
    p.conditions.binding.entries.map Prod.fst = args.conditions.map Prod.fst := by
  rw [← h.fields]
  exact (h.expanded hmode).keys

/-- **Patterns can be read back**, so two of them have one fragment only if they have the same
name, labels, length, direction, and keys with the same handles. -/
theorem readPattern?_of_made (hargs : args.validate = .ok args) (hp : Made shape args p)
    (hmode : p.conditions.mode = .expanded) :
    readPattern? p.build.marks =
        some ⟨shape, args.name, args.labels, (args.conditions.map (·.1)).zip p.table.handles⟩ ∧
      p.table.entries.map (·.value) = args.conditions.map (·.2) ∧
      ∀ shape' args' q, args'.validate = .ok args' → Made shape' args' q →
        q.conditions.mode = .expanded → q.build = p.build →
          shape' = shape ∧ args'.name = args.name ∧ args'.labels = args.labels ∧
            args'.conditions.map (·.1) = args.conditions.map (·.1) ∧
            q.table.handles = p.table.handles := by
  have hread := readPattern?_build_of_keeps hargs hp.keeps hmode
  have hkeys := hp.keeps.keys hmode
  have hhandles := (hp.keeps.expanded hmode).handles
  refine ⟨?_, ?_, fun shape' args' q hargs' hq hmode' hbuild => ?_⟩
  · rw [hread, List.zip_of_prod hkeys hhandles]
  · rw [← hp.keeps.fields]
    exact (hp.keeps.expanded hmode).values
  · have hread' := readPattern?_build_of_keeps hargs' hq.keeps hmode'
    rw [hbuild, hread] at hread'
    obtain ⟨hshape, hname, hlabels, hentries⟩ := Reading.mk.inj (Option.some.inj hread')
    have hkeys' := hq.keeps.keys hmode'
    have hhandles' := (hq.keeps.expanded hmode').handles
    rw [← hentries] at hkeys' hhandles'
    exact ⟨hshape.symm, hname.symm, hlabels.symm, hkeys'.symm.trans hkeys,
      hhandles'.symm.trans hhandles⟩

/-- Separators, brackets and backticks inside labels and keys. -/
def awkward : PatternArguments :=
  ⟨"r", ["A|B*2", "\x60]->"], [("k: $x \x7d", .null), ("plain", .bool true)]⟩

theorem readPattern?_of_made_awkward :
    let shape := Shape.relation .incoming (some (.range (some 1) none))
    let condensed := (ofArguments shape awkward 0).1.setMode .condensed 2
    let p := (condensed.1.setMode .expanded 3).1
    p.build.display = "<-[r:\x60A|B*2\x60|\x60\x60\x60]->\x60*1.. " ++
        "\x7b \x60k: $x \x7d\x60: $\x7bParamId(3)\x7d, plain: $\x7bParamId(4)\x7d \x7d]-" ∧
      readPattern? p.build.marks = some ⟨shape, "r", ["A|B*2", "\x60]->"],
        [("k: $x \x7d", ⟨3⟩), ("plain", ⟨4⟩)]⟩ ∧
      (ofArguments shape ⟨"r", ["A", "B*2", "\x60]->"], awkward.conditions⟩ 3).1.build ≠
        p.build := by
  intro shape condensed p
  have hargs : awkward.validate = .ok awkward :=
    PatternArguments.validate_eq_ok_iff.mpr ⟨.inr (by decide +kernel), by decide⟩
  have hmade : Made shape awkward p := .setMode .expanded 3 (.setMode .condensed 2 (.ofArguments 0))
  obtain ⟨hread, -, hapart⟩ := readPattern?_of_made hargs hmade rfl
  refine ⟨by decide +kernel, hread, fun hbuild => ?_⟩
  have hother : PatternArguments.validate ⟨"r", ["A", "B*2", "\x60]->"], awkward.conditions⟩ =
      .ok ⟨"r", ["A", "B*2", "\x60]->"], awkward.conditions⟩ :=
    PatternArguments.validate_eq_ok_iff.mpr ⟨.inr (by decide +kernel), by decide⟩
  obtain ⟨-, -, hlabels, -⟩ := hapart _ _ _ hother (.ofArguments 3) rfl hbuild
  exact absurd hlabels (by decide)

end

end Pattern

end GraphQuery
