import GraphQuery.Proofs.Literal.Reader

/-!
# Values with one literal

A literal tells everything of a value, its numbers by their texts. Two values have one literal just
if they are the same to this point (`SameLiteral`), and it does not matter what text comes after
the literals (`literal_unambiguous`).
-/

namespace GraphQuery.Literal

open Text

mutual

/-- The values are the same, members in the same order, and their numbers have the same texts. -/
inductive SameLiteral : Json → Json → Prop
  | null : SameLiteral .null .null
  | bool (b) : SameLiteral (.bool b) (.bool b)
  | number {n m} : n.text = m.text → SameLiteral (.number n) (.number m)
  | string (s) : SameLiteral (.string s) (.string s)
  | array {vs ws} : SameItems vs ws → SameLiteral (.array vs) (.array ws)
  | object {vs ws} : SameMembers vs ws → SameLiteral (.object vs) (.object ws)

inductive SameItems : List Json → List Json → Prop
  | nil : SameItems [] []
  | cons {v w vs ws} : SameLiteral v w → SameItems vs ws → SameItems (v :: vs) (w :: ws)

inductive SameMembers : List (String × Json) → List (String × Json) → Prop
  | nil : SameMembers [] []
  | cons {key v w vs ws} : SameLiteral v w → SameMembers vs ws →
      SameMembers ((key, v) :: vs) ((key, w) :: ws)

end

theorem SameItems.isEmpty_eq {vs ws : List Json} (h : SameItems vs ws) :
    vs.isEmpty = ws.isEmpty := by
  cases h <;> rfl

theorem SameMembers.isEmpty_eq {vs ws : List (String × Json)} (h : SameMembers vs ws) :
    vs.isEmpty = ws.isEmpty := by
  cases h <;> rfl

mutual

theorem SameLiteral.text_eq : ∀ {v w : Json}, SameLiteral v w → text v = text w
  | _, _, .null => rfl
  | _, _, .bool _ => rfl
  | _, _, .number h => h
  | _, _, .string _ => rfl
  | _, _, .array h => by simp only [text, h.text_eq]
  | _, _, .object h => by simp only [text, h.text_eq]

theorem SameItems.text_eq : ∀ {vs ws : List Json}, SameItems vs ws → itemsText vs = itemsText ws
  | _, _, .nil => rfl
  | _, _, .cons hv hvs => by simp only [itemsText, hv.text_eq, hvs.text_eq, hvs.isEmpty_eq]

theorem SameMembers.text_eq : ∀ {vs ws : List (String × Json)}, SameMembers vs ws →
    membersText vs = membersText ws
  | _, _, .nil => rfl
  | _, _, .cons hv hvs => by simp only [membersText, hv.text_eq, hvs.text_eq, hvs.isEmpty_eq]

end

mutual

theorem sameLiteral_of_tree_eq : ∀ (v w : Json), tree v = tree w → SameLiteral v w
  | .null, w, h => by
    cases w with
    | null => exact .null
    | _ => cases h
  | .bool b, w, h => by
    cases w with
    | bool c =>
      cases h
      exact .bool b
    | _ => cases h
  | .number n, w, h => by
    cases w with
    | number m => exact .number (Tree.number.inj h)
    | _ => cases h
  | .string s, w, h => by
    cases w with
    | string t =>
      cases h
      exact .string s
    | _ => cases h
  | .array vs, w, h => by
    cases w with
    | array ws => exact .array (sameItems_of_trees_eq vs ws (Tree.array.inj h))
    | _ => cases h
  | .object vs, w, h => by
    cases w with
    | object ws => exact .object (sameMembers_of_trees_eq vs ws (Tree.object.inj h))
    | _ => cases h

theorem sameItems_of_trees_eq : ∀ (vs ws : List Json), itemTrees vs = itemTrees ws →
    SameItems vs ws
  | [], [], _ => .nil
  | [], _ :: _, h => by cases h
  | _ :: _, [], h => by cases h
  | v :: vs, w :: ws, h => by
    obtain ⟨hv, hvs⟩ := List.cons.inj h
    exact .cons (sameLiteral_of_tree_eq v w hv) (sameItems_of_trees_eq vs ws hvs)

theorem sameMembers_of_trees_eq : ∀ (vs ws : List (String × Json)),
    memberTrees vs = memberTrees ws → SameMembers vs ws
  | [], [], _ => .nil
  | [], _ :: _, h => by cases h
  | _ :: _, [], h => by cases h
  | (key, v) :: vs, (other, w) :: ws, h => by
    obtain ⟨hmember, hvs⟩ := List.cons.inj h
    obtain ⟨rfl, hv⟩ := Prod.mk.inj hmember
    exact .cons (sameLiteral_of_tree_eq v w hv) (sameMembers_of_trees_eq vs ws hvs)

end

/-- **Literals are unambiguous.** -/
theorem literal_unambiguous (v : Json) (rest : List Char) (hrest : EndsValue rest) :
    read? (v.literal.toList ++ rest) = some (tree v, rest) ∧
      (∀ w, tree v = tree w ↔ SameLiteral v w) ∧
      (∀ w, v.literal = w.literal ↔ SameLiteral v w) ∧
      ∀ w after, EndsValue after → v.literal.toList ++ rest = w.literal.toList ++ after →
        SameLiteral v w ∧ rest = after := by
  have hread : ∀ w after, EndsValue after →
      read? (w.literal.toList ++ after) = some (tree w, after) := by
    intro w after hafter
    rw [Json.literal, String.toList_ofList]
    exact read?_text w hafter
  have hapart : ∀ w after, EndsValue after →
      v.literal.toList ++ rest = w.literal.toList ++ after → SameLiteral v w ∧ rest = after := by
    intro w after hafter heq
    have hv := hread v rest hrest
    rw [heq, hread w after hafter] at hv
    obtain ⟨htree, hends⟩ := Prod.mk.inj (Option.some.inj hv)
    exact ⟨sameLiteral_of_tree_eq v w htree.symm, hends.symm⟩
  have hliteral : ∀ w, SameLiteral v w → v.literal = w.literal := by
    intro w hsame
    rw [Json.literal, Json.literal, hsame.text_eq]
  refine ⟨hread v rest hrest, fun w => ⟨sameLiteral_of_tree_eq v w, fun hsame => ?_⟩,
    fun w => ⟨fun heq => ?_, hliteral w⟩, hapart⟩
  · have hv := hread v rest hrest
    rw [hliteral w hsame, hread w rest hrest] at hv
    exact (congrArg Prod.fst (Option.some.inj hv)).symm
  · exact (hapart w rest hrest (by rw [heq])).1

/-- Quotes, brackets and commas inside strings and keys. -/
def awkward : Json :=
  .object [("a\x60: [", .array [.string "it's\n]", .number (.int (-7)), .null]), ("é", .bool true)]

theorem literal_unambiguous_awkward :
    read? (awkward.literal.toList ++ ", 1".toList) = some (tree awkward, ", 1".toList) ∧
      awkward.literal =
        "\x7b\x60a\x60\x60: [\x60: ['it\\'s\\n]', -7, null], é: true\x7d" ∧
      ¬ SameLiteral awkward (.object []) := by
  have hends : EndsValue ", 1".toList := stops_cons.mpr (by decide +kernel)
  obtain ⟨hread, -, hliteral, -⟩ := literal_unambiguous awkward ", 1".toList hends
  refine ⟨hread, by decide +kernel, fun hsame => ?_⟩
  cases hsame with
  | object h => cases h

end GraphQuery.Literal
