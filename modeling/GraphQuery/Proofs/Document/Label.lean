import GraphQuery.Clause
import GraphQuery.Proofs.Document.Reference
import GraphQuery.Proofs.Text.Name

/-!
# Tests for a label

A pattern writes a label between backticks unless it is an identifier, and a test for the label
writes it as it is. So the two agree, and the test is about that label, just for identifiers
(`ofJson_label`). Of any other label that begins like an identifier the rest is query text.
-/

namespace GraphQuery

open Text

namespace Pattern

/-- A node pattern with one label and nothing else. -/
def labelled (label : String) : Pattern :=
  (ofArguments .node ⟨"", [label], []⟩ 1).1

theorem compile_labelled (label : String) : (Clause.ofPattern (labelled label)).compile =
    .ok ⟨"(:" ++ String.ofList (nameToken label.toList) ++ ")", []⟩ := by
  have hinner : (labelled label).inner = .text (":" ++ String.ofList (nameToken label.toList)) := by
    simp [labelled, ofArguments, PatternConditions.bind, PatternConditions.rebind,
      PatternConditions.render, inner, head, Shape.lengthText]
  have hbuild : (labelled label).build =
      .text ("(:" ++ String.ofList (nameToken label.toList) ++ ")") := by
    show Fragment.text "(" ++ (labelled label).inner ++ Fragment.text ")" = _
    rw [hinner, Fragment.text_append_text, Fragment.text_append_text, ← String.append_assoc]
    rfl
  unfold Clause.compile Clause.ofPattern Query.ofFragment
  rw [hbuild, Fragment.finalize_text]
  rfl

/-- What is written in the place of the label is the label's token. -/
theorem compile_labelled_eq_iff {label written : String} :
    (Clause.ofPattern (labelled label)).compile = .ok ⟨"(:" ++ written ++ ")", []⟩ ↔
      nameToken label.toList = written.toList := by
  rw [compile_labelled, Except.ok.injEq, Query.mk.injEq, String.append_left_inj,
    String.append_right_inj, and_iff_left rfl, ← String.toList_inj, String.toList_ofList]

end Pattern

namespace Condition

variable {limit : Nat} {f : String}

/-- **A label is written safely just if it is an identifier.** The test of a field for a label is
accepted, whatever the label is, and stores nothing. What it writes after the colon is what a node
pattern writes for the label, and is read back as that label and no more, if and only if the label
is an identifier. Of a label that only begins like one, a part is left over as further query text. -/
theorem ofJson_label (hlimit : 2 ≤ limit) (hf : isOperatorKey f = false) (label : String) :
    ∃ c written, ofJson limit (fieldTest f "$hasLabel" (.string label)) = .ok c ∧
      c.WritesOnly (fun field => joinField field f ++ ":" ++ written) ∧
      ((Clause.ofPattern (Pattern.labelled label)).compile = .ok ⟨"(:" ++ written ++ ")", []⟩ ↔
        isIdentifier label.toList) ∧
      ∀ rest, Stops continuesToken rest →
        (readName? (written.toList ++ rest) = some (label.toList, rest) ↔
          isIdentifier label.toList) ∧
        (isIdentifier label.toList = false → ∀ c ∈ label.toList.head?, startsIdentifier c →
          ∃ name more, name ++ more = label.toList ∧ more ≠ [] ∧
            readName? (written.toList ++ rest) = some (name, more ++ rest)) := by
  have hrender : ∀ field s, (Comparator.hasLabel label).render field s =
      (.text (field ++ ":" ++ label), s) := fun _ _ => rfl
  refine ⟨_, label, ofJson_fieldTest hlimit hf (by decide) (by decide) rfl,
    writesOnly_lone hrender f, ?_, fun rest hrest => ⟨readName?_append_eq_iff hrest, ?_⟩⟩
  · rw [Pattern.compile_labelled_eq_iff, nameToken_eq_self_iff]
  · intro hplain c hc hstarts
    obtain ⟨s, hlabel⟩ := List.head?_eq_some_iff.mp hc
    rw [hlabel] at hplain ⊢
    exact exists_readName?_of_not_isIdentifier hstarts hplain rest

theorem ofJson_label_twoWords :
    (2 ≤ defaultMaxDepth ∧ isOperatorKey "n" = false) ∧
    (∃ c written, ofJson defaultMaxDepth (fieldTest "n" "$hasLabel" (.string "Größe_2")) = .ok c ∧
      c.compile .not "" = .ok ⟨"n:" ++ written, []⟩ ∧
      readName? (written.toList ++ " AND m:A".toList) =
        some ("Größe_2".toList, " AND m:A".toList)) ∧
    ∃ c written, ofJson defaultMaxDepth (fieldTest "n" "$hasLabel" (.string "Data Set")) = .ok c ∧
      c.compile .not "" = .ok ⟨"n:" ++ written, []⟩ ∧
      readName? (written.toList ++ []) ≠ some ("Data Set".toList, []) := by
  have hlimit : 2 ≤ defaultMaxDepth := by decide
  have hn : isOperatorKey "n" = false := by decide
  refine ⟨⟨hlimit, hn⟩, ?_, ?_⟩
  · obtain ⟨c, written, hc, hwrites, -, hreads⟩ := ofJson_label hlimit hn "Größe_2"
    have hand : Stops continuesToken " AND m:A".toList := stops_cons.mpr (by decide +kernel)
    exact ⟨c, written, hc, (hwrites .not "").2, (hreads _ hand).1.mpr (by decide +kernel)⟩
  · obtain ⟨c, written, hc, hwrites, -, hreads⟩ := ofJson_label hlimit hn "Data Set"
    refine ⟨c, written, hc, (hwrites .not "").2, mt (hreads [] stops_nil).1.mp ?_⟩
    decide +kernel

/-- A label with a connective in it is written as two tests, of which either may hold; a pattern
writes it as one label. -/
theorem label_adds_test :
    (∃ c, ofJson defaultMaxDepth (fieldTest "n" "$hasLabel" (.string "Guest OR n:Admin")) = .ok c ∧
      c.compile .none "" = .ok ⟨"n:Guest OR n:Admin", []⟩) ∧
    readName? "Guest OR n:Admin".toList = some ("Guest".toList, " OR n:Admin".toList) ∧
    (or [and [("n", .compare (.hasLabel "Guest"))], and [("n", .compare (.hasLabel "Admin"))]]).compile
      .none "" = .ok ⟨"n:Guest OR n:Admin", []⟩ ∧
    (Clause.ofPattern (Pattern.labelled "Guest OR n:Admin")).compile =
      .ok ⟨"(:\x60Guest OR n:Admin\x60)", []⟩ :=
  ⟨⟨.and [("n", .compare (.hasLabel "Guest OR n:Admin"))], rfl, rfl⟩, by decide +kernel, rfl, by
    rw [Pattern.compile_labelled]
    exact congrArg (fun s => Except.ok (Query.mk s [])) (by decide +kernel)⟩

end Condition

end GraphQuery
