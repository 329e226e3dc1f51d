import GraphQuery.Proofs.Fragment

/-!
# Fragments character by character

The marks of a fragment are the characters of its texts with its handles among them, so it does
not matter where the texts were joined. A reader of text reads marks up to the next handle.
-/

namespace GraphQuery

inductive Mark
  | char (c : Char)
  | param (h : Handle)
deriving DecidableEq, Repr

def Segment.marks : Segment → List Mark
  | .text s => s.toList.map .char
  | .param h => [.param h]

def Mark.handle? : Mark → Option Handle
  | .char _ => none
  | .param h => some h

namespace Fragment

def marks (f : Fragment) : List Mark :=
  f.segments.flatMap Segment.marks

theorem seamless_marks : Seamless fun l => marks ⟨l⟩ where
  empty_text _ := rfl
  texts s t l := by simp [marks, Segment.marks]
  cons x _ _ h := congrArg (x.marks ++ ·) h

@[simp] theorem marks_empty : empty.marks = [] := rfl

@[simp] theorem marks_param (h : Handle) : (param h).marks = [.param h] := rfl

@[simp] theorem marks_text (s : String) : (text s).marks = s.toList.map .char :=
  (seamless_marks.text_eq s).trans (List.append_nil _)

@[simp] theorem marks_append (f g : Fragment) : (f ++ g).marks = f.marks ++ g.marks :=
  (seamless_marks.append_eq f g).trans List.flatMap_append

theorem marks_join (separator : String) (fs : List Fragment) : (join separator fs).marks =
    List.intercalate (separator.toList.map .char) (fs.map marks) := by
  induction fs with
  | nil => rfl
  | cons f rest ih =>
    cases rest with
    | nil => simp [join]
    | cons g rest =>
      rw [join_cons separator f (List.cons_ne_nil g rest), marks_append, marks_append, ih,
        marks_text]
      simp [List.intercalate_cons_cons]

theorem handles_eq_marks (f : Fragment) : f.handles = f.marks.filterMap Mark.handle? := by
  unfold handles marks
  induction f.segments with
  | nil => rfl
  | cons x rest ih =>
    rw [List.flatMap_cons, List.filterMap_append, ← ih]
    cases x with
    | text s =>
      have hnone : (s.toList.map Mark.char).filterMap Mark.handle? = [] := by
        simp [List.filterMap_map, Mark.handle?]
      rw [Segment.marks, hnone]
      rfl
    | param h => rfl

theorem mem_handles_iff {f : Fragment} {h : Handle} : h ∈ f.handles ↔ Mark.param h ∈ f.marks := by
  rw [handles_eq_marks, List.mem_filterMap]
  constructor
  · rintro ⟨x, hx, heq⟩
    cases x with
    | char c => cases heq
    | param k => exact Option.some.inj heq ▸ hx
  · exact fun hmem => ⟨.param h, hmem, rfl⟩

end Fragment

/-! ## Reading text among marks -/

/-- The text before the first handle. -/
def leadingText : List Mark → List Char
  | .char c :: rest => c :: leadingText rest
  | _ => []

/-- The marks from the first handle on. -/
def afterText : List Mark → List Mark
  | .char _ :: rest => afterText rest
  | rest => rest

/-- Reads with a reader of text, for which the text ends at a handle. -/
def readText? {α : Type} (read : List Char → Option (α × List Char)) (s : List Mark) :
    Option (α × List Mark) :=
  (read (leadingText s)).map fun (a, rest) => (a, rest.map .char ++ afterText s)

theorem leadingText_append (t : List Char) (rest : List Mark) :
    leadingText (t.map .char ++ rest) = t ++ leadingText rest := by
  induction t with
  | nil => rfl
  | cons c t ih => rw [List.map_cons, List.cons_append, leadingText, ih, List.cons_append]

theorem afterText_append (t : List Char) (rest : List Mark) :
    afterText (t.map .char ++ rest) = afterText rest := by
  induction t with
  | nil => rfl
  | cons c t ih => rw [List.map_cons, List.cons_append, afterText, ih]

theorem leadingText_append_afterText (s : List Mark) :
    (leadingText s).map .char ++ afterText s = s := by
  induction s with
  | nil => rfl
  | cons x s ih =>
    cases x with
    | char c => rw [leadingText, afterText, List.map_cons, List.cons_append, ih]
    | param h => rfl

theorem readText?_append {α : Type} {read : List Char → Option (α × List Char)} {t : List Char}
    {rest : List Mark} {a : α} (h : read (t ++ leadingText rest) = some (a, leadingText rest)) :
    readText? read (t.map .char ++ rest) = some (a, rest) := by
  rw [readText?, leadingText_append, h, afterText_append]
  show some (a, (leadingText rest).map .char ++ afterText rest) = some (a, rest)
  rw [leadingText_append_afterText]

end GraphQuery
