import GraphQuery.Proofs.Text.Runs

/-!
# Items with separators between them

A list is read item by item, as long as a separator follows. If every item is read back wherever
a list may go on or end, so is the list.
-/

namespace GraphQuery.Text

variable {α β : Type} [DecidableEq α]

/-- Reads items with separators between them, at least one and at most as many as there is fuel. -/
def readUpTo? (separator : α) (item? : List α → Option (β × List α)) :
    Nat → List α → Option (List β × List α)
  | 0, _ => none
  | fuel + 1, s =>
    (item? s).bind fun (item, s) =>
      if s.head? = some separator then
        (readUpTo? separator item? fuel s.tail).map fun (items, s) => (item :: items, s)
      else some ([item], s)

/-- Reads items with separators between them, at least one. Every item but the last takes up a
separator, so there is fuel for all of them. -/
def readSeparated? (separator : α) (item? : List α → Option (β × List α)) (s : List α) :
    Option (List β × List α) :=
  readUpTo? separator item? (s.length + 1) s

variable {separator : α} {item? : List α → Option (β × List α)}

theorem readUpTo?_congr {s t : List α} (h : item? s = item? t) (fuel : Nat) :
    readUpTo? separator item? fuel s = readUpTo? separator item? fuel t := by
  cases fuel with
  | zero => rfl
  | succ fuel => rw [readUpTo?, readUpTo?, h]

variable {follow : List α → Prop} {write : β → List α} {blanks : List α}

theorem readUpTo?_intercalate
    (hread : ∀ item rest, follow rest → item? (write item ++ rest) = some (item, rest))
    (hblanks : ∀ s, item? (blanks ++ s) = item? s) (hseparator : ∀ s, follow (separator :: s))
    {rest : List α} (hrest : follow rest) (hend : rest.head? ≠ some separator) :
    ∀ (items : List β) (fuel : Nat), items ≠ [] → items.length ≤ fuel →
      readUpTo? separator item? fuel
        (List.intercalate (separator :: blanks) (items.map write) ++ rest) = some (items, rest)
  | [], _, hne, _ => absurd rfl hne
  | _ :: _, 0, _, hfuel => absurd hfuel (Nat.not_succ_le_zero _)
  | [item], fuel + 1, _, _ => by
    rw [List.map_singleton, List.intercalate_singleton, readUpTo?, hread item rest hrest]
    show (if rest.head? = some separator then _ else _) = _
    rw [if_neg hend]
  | item :: next :: items, fuel + 1, _, hfuel => by
    have ih := readUpTo?_intercalate hread hblanks hseparator hrest hend (next :: items) fuel
      (List.cons_ne_nil next items) (Nat.le_of_succ_le_succ hfuel)
    rw [List.map_cons, List.map_cons, List.intercalate_cons_cons, ← List.map_cons,
      List.append_assoc, List.append_assoc, List.cons_append, readUpTo?,
      hread item _ (hseparator _)]
    show (if some separator = some separator then (readUpTo? separator item? fuel
      (blanks ++ _)).map _ else _) = _
    rw [if_pos rfl, readUpTo?_congr (hblanks _), ih]
    rfl

omit [DecidableEq α] in
theorem length_le_length_intercalate (items : List (List α)) :
    items.length ≤ (List.intercalate (separator :: blanks) items).length + 1 := by
  induction items with
  | nil => exact Nat.zero_le _
  | cons item items ih =>
    cases items with
    | nil => simp
    | cons next items =>
      rw [List.length_cons, List.intercalate_cons_cons, List.length_append, List.length_append,
        List.length_cons (a := separator)]
      omega

/-- **A list is read back**, with blanks before its items, if its items are. -/
theorem readSeparated?_intercalate (blanks : List α)
    (hread : ∀ item rest, follow rest → item? (write item ++ rest) = some (item, rest))
    (hblanks : ∀ s, item? (blanks ++ s) = item? s) (hseparator : ∀ s, follow (separator :: s))
    {rest : List α} (hrest : follow rest) (hend : rest.head? ≠ some separator) {items : List β}
    (hne : items ≠ []) :
    readSeparated? separator item?
      (blanks ++ (List.intercalate (separator :: blanks) (items.map write) ++ rest)) =
        some (items, rest) := by
  rw [readSeparated?, readUpTo?_congr (hblanks _)]
  refine readUpTo?_intercalate hread hblanks hseparator hrest hend items _ hne ?_
  have hlength : (items.map write).length ≤
      (List.intercalate (separator :: blanks) (items.map write)).length + 1 :=
    length_le_length_intercalate (items.map write)
  rw [List.length_map] at hlength
  rw [List.length_append, List.length_append]
  omega

end GraphQuery.Text
