import GraphQuery.Proofs.Fragment.Marks
import GraphQuery.Proofs.Fragment.Resolution
import GraphQuery.Proofs.Naming.Placeholder
import GraphQuery.Proofs.Parameter.Table
import GraphQuery.Query
import Mathlib.Data.List.Chain

/-!
# Scripts with their values in place

A script is one text, in which placeholders have to be found again. `interpolate_finalize`: they are
found just where the handles of the fragment were, as long as no other text looks like one, and
what is put in for them is not looked through again.
-/

namespace GraphQuery

open Literal Text

namespace Mark

/-- Whether a name that stands before it could go on with it. -/
def continuesName : Mark → Bool
  | .char c => Literal.continuesName c
  | .param _ => false

/-- Whether the one may stand before the other: no name could run on into what is behind it. -/
def mayPrecede : Mark → Mark → Bool
  | .param _, next => !next.continuesName
  | .char _, _ => true

/-- What a script has for a mark: a placeholder for a handle. -/
def script (t : ParameterTable) : Mark → List Char
  | .char c => [c]
  | .param k => '$' :: ((t.nameOf? k).getD "").toList

/-- A character as it is, and for a handle the literal of the value that a table has for it. -/
def literal (t : ParameterTable) : Mark → List Char
  | .char c => [c]
  | .param k => (t.get? k).elim [] fun p => Literal.text p.value

end Mark

variable {t : ParameterTable}

/-! ## The script of a fragment -/

theorem Fragment.toList_of_resolve {l : List Segment} : ∀ {text : String},
    resolve t l = .ok text → text.toList = (marks ⟨l⟩).flatMap (Mark.script t) := by
  have hchars : ∀ s : List Char, (s.map Mark.char).flatMap (Mark.script t) = s := by
    intro s
    induction s with
    | nil => rfl
    | cons c s ih => rw [List.map_cons, List.flatMap_cons, ih]; rfl
  induction l with
  | nil => intro text h; cases h; rfl
  | cons x rest ih =>
    intro text h
    have hcons : marks ⟨x :: rest⟩ = x.marks ++ marks ⟨rest⟩ := List.flatMap_cons
    rw [hcons, List.flatMap_append]
    cases x with
    | text s =>
      obtain ⟨more, hmore, rfl⟩ := resolve_text_eq_ok_iff.mp h
      rw [Segment.marks, hchars, ← ih hmore, String.toList_append]
    | param k =>
      obtain ⟨name, more, hname, hmore, rfl⟩ := resolve_param_eq_ok_iff.mp h
      rw [← ih hmore]
      simp [Segment.marks, Mark.script, hname]

/-! ## Finding the placeholders -/

/-- Marks from which a script is made that can be taken apart again: the only dollar signs are those
of the placeholders, whose names are of the usual form and end where they should. -/
structure Legible (t : ParameterTable) (m : List Mark) : Prop where
  noDollar : Mark.char '$' ∉ m
  named : ∀ k, Mark.param k ∈ m → ∃ name, t.nameOf? k = some name ∧ isName name.toList
  apart : m.IsChain fun x next => x.mayPrecede next

theorem Legible.tail {x : Mark} {m : List Mark} (h : Legible t (x :: m)) : Legible t m where
  noDollar := fun hmem => h.noDollar (List.mem_cons_of_mem _ hmem)
  named := fun k hk => h.named k (List.mem_cons_of_mem _ hk)
  apart := h.apart.tail

theorem Legible.stops {k : Handle} {m : List Mark} (h : Legible t (.param k :: m)) :
    Stops Mark.continuesName m := by
  cases m with
  | nil => exact stops_nil
  | cons next m =>
    have hnext := (List.isChain_cons_cons.mp h.apart).1
    exact stops_cons.mpr (by simpa [Mark.mayPrecede] using hnext)

theorem stops_script {m : List Mark} (h : Stops Mark.continuesName m) :
    Stops Literal.continuesName (m.flatMap (Mark.script t)) := by
  cases m with
  | nil => exact stops_nil
  | cons x m =>
    rw [stops_cons] at h
    cases x with
    | char c => exact stops_cons.mpr h
    | param k =>
      apply stops_cons.mpr
      decide

theorem interpolate_char {params : List (String × Json)} {c : Char} (hc : c ≠ '$')
    (rest : List Char) : interpolate params (c :: rest) = c :: interpolate params rest := by
  rw [interpolate, if_neg fun h => hc h.1]

theorem interpolate_script (ht : t.names.Nodup) {m : List Mark} (hm : Legible t m) :
    interpolate t.values (m.flatMap (Mark.script t)) = m.flatMap (Mark.literal t) := by
  induction m with
  | nil =>
    rw [List.flatMap_nil, interpolate]
    rfl
  | cons x m ih =>
    have hrest := ih hm.tail
    rw [List.flatMap_cons, List.flatMap_cons]
    cases x with
    | char c =>
      have hc : c ≠ '$' := by
        rintro rfl
        exact hm.noDollar (List.mem_cons_self ..)
      rw [← hrest]
      exact interpolate_char hc _
    | param k =>
      obtain ⟨name, hk, hname⟩ := hm.named k (List.mem_cons_self ..)
      obtain ⟨p, hp, rfl⟩ := Option.map_eq_some_iff.mp hk
      have hstops := stops_script (t := t) hm.stops
      have hlookup : t.values.lookup p.name = some p.value := by
        rw [ParameterTable.values_eq_of_nodup ht]
        exact ParameterTable.lookup_of_nodup ht (List.mem_of_find?_eq_some hp)
      have hscript : Mark.script t (.param k) = '$' :: p.name.toList := by
        simp [Mark.script, hk]
      have hvalue : substitute t.values p.name.toList = Mark.literal t (.param k) := by
        simp [substitute, Mark.literal, hlookup, hp]
      rw [hscript, List.cons_append, interpolate_placeholder (recognised_iff.mpr hname) hstops,
        hvalue, hrest]

/-- **Interpolation puts in the values and changes nothing else.** A fragment from which the
placeholders can be taken again has a script, and interpolating the script gives the texts of the
fragment as they are, with the literal of its own value for every handle. -/
theorem interpolate_finalize {next : Nat} (ht : ParameterTable.Reachable next t) {f : Fragment}
    (hf : Legible t f.marks) :
    ∃ script, f.finalize t = .ok script ∧
      interpolate t.values script.toList = f.marks.flatMap (Mark.literal t) ∧
      (Query.ofFragment f t).map Query.interpolated =
        .ok (String.ofList (f.marks.flatMap (Mark.literal t))) := by
  have hexists : ∃ script, f.finalize t = .ok script := by
    refine Fragment.exists_finalize_iff.mpr fun k hk => ?_
    obtain ⟨name, hname, -⟩ := hf.named k (Fragment.mem_handles_iff.mp hk)
    exact ParameterTable.mem_handles_of_nameOf? hname
  obtain ⟨script, hscript⟩ := hexists
  have hvalues : interpolate t.values script.toList = f.marks.flatMap (Mark.literal t) := by
    rw [Fragment.toList_of_resolve hscript]
    exact interpolate_script ht.sound.names hf
  refine ⟨script, hscript, hvalues, ?_⟩
  rw [Query.ofFragment, hscript]
  exact congrArg (Except.ok ∘ String.ofList) hvalues

/-- Two names one of which starts with the other, and values that look like placeholders. -/
def lookalikes : ParameterTable :=
  let first := (⟨.empty, 1⟩ : Scope).allocate (.string "$name2") (some "name")
  (first.2.allocate (.string "'$name'") (some "name")).2.table

/-- `n.name = $name OR n.name = $name2`, with handles for the placeholders. -/
def eitherName : Fragment :=
  .text "n.name = " ++ .param ⟨1⟩ ++ .text " OR n.name = " ++ .param ⟨2⟩

theorem interpolate_finalize_lookalikes :
    ParameterTable.Reachable 3 lookalikes ∧ Legible lookalikes eitherName.marks ∧
      ∃ script, eitherName.finalize lookalikes = .ok script ∧
        interpolate lookalikes.values script.toList =
          "n.name = '$name2' OR n.name = '\\'$name\\''".toList := by
  have hreach : ParameterTable.Reachable 3 lookalikes :=
    .allocate _ _ (.allocate _ _ .empty (by decide)) (by decide)
  have hlegible : Legible lookalikes eitherName.marks := by
    refine ⟨by decide +kernel, fun k hk => ?_, by decide +kernel⟩
    have hhandles : eitherName.handles = [⟨1⟩, ⟨2⟩] := by decide +kernel
    have hcases : k = ⟨1⟩ ∨ k = ⟨2⟩ := by simpa [hhandles] using Fragment.mem_handles_iff.mpr hk
    rcases hcases with rfl | rfl
    · exact ⟨"name", by decide +kernel, by decide⟩
    · exact ⟨"name2", by decide +kernel, by decide⟩
  obtain ⟨script, hscript, hvalues, -⟩ := interpolate_finalize hreach hlegible
  refine ⟨hreach, hlegible, script, hscript, hvalues.trans ?_⟩
  decide +kernel

end GraphQuery
