import GraphQuery.Fragment

/-!
# Fragments one after another

Texts that meet run together, so fragments form a monoid under concatenation, and a joined list
can be cut at any place. Concatenation never loses a handle or a piece of text.
-/

namespace GraphQuery.Fragment

theorem segments_append (f g : Fragment) :
    (f ++ g).segments = f.segments.foldr consSegment g.segments := rfl

/-! ## Texts that meet -/

theorem consSegment_text_text (s t : String) (rest : List Segment) :
    consSegment (.text s) (consSegment (.text t) rest) = consSegment (.text (s ++ t)) rest := by
  by_cases hs : s = ""
  · subst hs
    by_cases ht : t = ""
    · subst ht; rfl
    · simp [consSegment]
  · by_cases ht : t = ""
    · subst ht; simp [consSegment]
    · cases rest with
      | nil => simp [consSegment, hs, ht]
      | cons head more =>
        cases head with
        | text u => simp [consSegment, hs, ht, String.append_assoc]
        | param h => simp [consSegment, hs, ht]

theorem consSegment_foldr (x : Segment) (l rest : List Segment) :
    (consSegment x l).foldr consSegment rest = consSegment x (l.foldr consSegment rest) := by
  cases x with
  | param h => rfl
  | text s =>
    by_cases hs : s = ""
    · simp [consSegment, hs]
    · cases l with
      | nil => simp [consSegment, hs]
      | cons head more =>
        cases head with
        | param h => simp [consSegment, hs]
        | text t =>
          have hmerge : consSegment (.text s) (.text t :: more) = .text (s ++ t) :: more := by
            simp [consSegment, hs]
          rw [hmerge, List.foldr_cons, List.foldr_cons, consSegment_text_text]

/-! ## The monoid -/

theorem append_assoc (f g h : Fragment) : f ++ g ++ h = f ++ (g ++ h) := by
  have key : ∀ l : List Segment, (l.foldr consSegment g.segments).foldr consSegment h.segments =
      l.foldr consSegment (g.segments.foldr consSegment h.segments) := by
    intro l
    induction l with
    | nil => rfl
    | cons x l ih => rw [List.foldr_cons, consSegment_foldr, ih, List.foldr_cons]
  exact congrArg Fragment.mk (key f.segments)

@[simp] theorem empty_append (f : Fragment) : empty ++ f = f := rfl

@[simp] theorem text_empty : text "" = empty := rfl

theorem text_append_text (s t : String) : text s ++ text t = text (s ++ t) := by
  show Fragment.mk ((consSegment (.text s) []).foldr consSegment (consSegment (.text t) [])) = _
  rw [consSegment_foldr, List.foldr_nil, consSegment_text_text]
  rfl

/-! ## Views -/

/-- A view of segments that does not show where texts were put together. -/
structure Seamless {β : Type} (view : List Segment → β) : Prop where
  empty_text : ∀ l, view (.text "" :: l) = view l
  texts : ∀ s t l, view (.text s :: .text t :: l) = view (.text (s ++ t) :: l)
  cons : ∀ x l m, view l = view m → view (x :: l) = view (x :: m)

namespace Seamless

variable {β : Type} {view : List Segment → β} (hview : Seamless view)
include hview

theorem consSegment_eq (x : Segment) (l : List Segment) : view (consSegment x l) = view (x :: l) := by
  cases x with
  | param h => rfl
  | text s =>
    by_cases hs : s = ""
    · subst hs
      exact (hview.empty_text l).symm
    · cases l with
      | nil => simp [consSegment, hs]
      | cons head more =>
        cases head with
        | text t => simpa [consSegment, hs] using (hview.texts s t more).symm
        | param h => simp [consSegment, hs]

theorem text_eq (s : String) : view (text s).segments = view [.text s] :=
  hview.consSegment_eq (.text s) []

theorem append_eq (f g : Fragment) : view (f ++ g).segments = view (f.segments ++ g.segments) := by
  rw [segments_append]
  induction f.segments with
  | nil => rfl
  | cons x l ih =>
    rw [List.foldr_cons, hview.consSegment_eq]
    exact hview.cons x _ _ ih

end Seamless

/-! ## Emptiness -/

theorem isEmpty_iff {f : Fragment} : f.isEmpty = true ↔ f = empty := by
  cases f; simp [isEmpty, empty]

@[simp] theorem isEmpty_empty : empty.isEmpty = true := rfl

@[simp] theorem isEmpty_param (h : Handle) : (param h).isEmpty = false := rfl

theorem isEmpty_text {s : String} (hs : s ≠ "") : (text s).isEmpty = false := by
  simp [isEmpty, text, consSegment, hs]

theorem consSegment_ne_nil (x : Segment) {l : List Segment} (hl : l ≠ []) :
    consSegment x l ≠ [] := by
  cases x with
  | param h => simp [consSegment]
  | text s =>
    simp only [consSegment]
    split
    · exact hl
    · split <;> simp

theorem isEmpty_append_right (f : Fragment) {g : Fragment} (hg : g.isEmpty = false) :
    (f ++ g).isEmpty = false := by
  have key : ∀ l : List Segment, l.foldr consSegment g.segments ≠ [] := by
    intro l
    induction l with
    | nil => simpa [isEmpty] using hg
    | cons x l ih => exact consSegment_ne_nil x ih
  simpa [isEmpty, segments_append] using key f.segments

theorem isEmpty_text_append {s : String} (hs : s ≠ "") (g : Fragment) :
    (text s ++ g).isEmpty = false := by
  have hseg : (text s ++ g).segments = consSegment (.text s) g.segments := by
    rw [segments_append]; simp [text, consSegment, hs]
  simp only [isEmpty, hseg, consSegment, hs, if_false]
  split <;> rfl

/-! ## Joined lists -/

@[simp] theorem join_nil (separator : String) : join separator [] = empty := rfl

@[simp] theorem join_singleton (separator : String) (f : Fragment) : join separator [f] = f := rfl

theorem join_cons (separator : String) (f : Fragment) {rest : List Fragment} (h : rest ≠ []) :
    join separator (f :: rest) = f ++ (text separator ++ join separator rest) := by
  cases rest with
  | nil => exact absurd rfl h
  | cons g rest => rw [← append_assoc]; rfl

theorem join_append (separator : String) {fs gs : List Fragment} (hf : fs ≠ []) (hg : gs ≠ []) :
    join separator (fs ++ gs) = join separator fs ++ (text separator ++ join separator gs) := by
  induction fs with
  | nil => exact absurd rfl hf
  | cons f rest ih =>
    by_cases hr : rest = []
    · subst hr; exact join_cons separator f hg
    · rw [List.cons_append, join_cons separator f (by simp [hr]), ih hr, join_cons separator f hr]
      simp only [append_assoc]

theorem isEmpty_join {separator : String} {fs : List Fragment} (hs : fs ≠ [])
    (hf : ∀ f ∈ fs, f.isEmpty = false) : (join separator fs).isEmpty = false := by
  induction fs with
  | nil => exact absurd rfl hs
  | cons f rest ih =>
    by_cases hr : rest = []
    · subst hr; exact hf f (List.mem_cons_self ..)
    · rw [join_cons separator f hr]
      refine isEmpty_append_right _ (isEmpty_append_right _ (ih hr ?_))
      exact fun g hg => hf g (List.mem_cons_of_mem _ hg)

/-! ## Handles -/

@[simp] theorem handles_empty : empty.handles = [] := rfl

@[simp] theorem handles_param (h : Handle) : (param h).handles = [h] := rfl

theorem seamless_handles : Seamless fun l => handles ⟨l⟩ where
  empty_text _ := rfl
  texts _ _ _ := rfl
  cons x l m h := by
    cases x with
    | text s => exact h
    | param k => exact congrArg (k :: ·) h

@[simp] theorem handles_text (s : String) : (text s).handles = [] :=
  seamless_handles.text_eq s

@[simp] theorem handles_append (f g : Fragment) :
    (f ++ g).handles = f.handles ++ g.handles :=
  (seamless_handles.append_eq f g).trans List.filterMap_append

@[simp] theorem handles_join (separator : String) (fs : List Fragment) :
    (join separator fs).handles = fs.flatMap handles := by
  induction fs with
  | nil => rfl
  | cons f rest ih =>
    by_cases hr : rest = []
    · subst hr; simp
    · rw [join_cons separator f hr]
      simp [ih]

/-! ## Sizes -/

def segmentSize : Segment → Nat
  | .text s => s.length
  | .param _ => 1

/-- The number of characters and handles in a fragment. -/
def size (f : Fragment) : Nat :=
  f.segments.foldr (fun x n => segmentSize x + n) 0

def sizes : List Fragment → Nat
  | [] => 0
  | f :: rest => f.size + sizes rest

@[simp] theorem sizes_append (fs gs : List Fragment) : sizes (fs ++ gs) = sizes fs + sizes gs := by
  induction fs with
  | nil => rw [List.nil_append, sizes, Nat.zero_add]
  | cons f rest ih => rw [List.cons_append, sizes, sizes, ih, Nat.add_assoc]

theorem size_cons (x : Segment) (l : List Segment) :
    size ⟨x :: l⟩ = segmentSize x + size ⟨l⟩ := rfl

theorem seamless_size : Seamless fun l => size ⟨l⟩ where
  empty_text l := by simp [size_cons, segmentSize]
  texts s t l := by simp [size_cons, segmentSize, Nat.add_assoc]
  cons x l m h := by simp only [size_cons, h]

@[simp] theorem size_text (s : String) : (text s).size = s.length :=
  seamless_size.text_eq s

@[simp] theorem size_append (f g : Fragment) : (f ++ g).size = f.size + g.size := by
  have key : ∀ l : List Segment, size ⟨l ++ g.segments⟩ = size ⟨l⟩ + g.size := by
    intro l
    induction l with
    | nil => exact (Nat.zero_add g.size).symm
    | cons x l ih => rw [List.cons_append, size_cons, ih, size_cons, Nat.add_assoc]
  exact (seamless_size.append_eq f g).trans (key f.segments)

theorem size_parenthesized (f : Fragment) : f.parenthesized.size = f.size + 2 := by
  have hleft : "(".length = 1 := rfl
  have hright : ")".length = 1 := rfl
  rw [parenthesized, size_append, size_append, size_text, size_text, hleft, hright]
  omega

theorem size_join (separator : String) (fs : List Fragment) :
    (join separator fs).size =
      sizes fs + (fs.length - 1) * separator.length := by
  induction fs with
  | nil => simp [size, sizes, empty]
  | cons f rest ih =>
    by_cases hr : rest = []
    · subst hr; simp [sizes]
    · obtain ⟨n, hn⟩ := Nat.exists_eq_succ_of_ne_zero (mt List.length_eq_zero_iff.mp hr)
      rw [join_cons separator f hr, size_append, size_append, ih, size_text, hn]
      simp only [sizes, List.length_cons, hn, Nat.add_sub_cancel, Nat.succ_eq_add_one,
        Nat.succ_mul]
      omega

end GraphQuery.Fragment
