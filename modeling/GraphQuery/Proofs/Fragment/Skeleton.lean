import GraphQuery.Proofs.Fragment
import GraphQuery.Proofs.Fragment.Resolution
import Mathlib.Data.List.Forall2

/-!
# Text with blanks

The skeleton of a fragment is its text with a blank for every handle. Texts with the same skeleton
are the same in the end if the names that come into their blanks are the same
(`finalize_eq_of_skeleton`).
-/

namespace GraphQuery

def Segment.blank : Segment → Segment
  | .text s => .text s
  | .param _ => .param ⟨0⟩

namespace Fragment

def skeleton (f : Fragment) : Fragment :=
  ⟨f.segments.map Segment.blank⟩

/-! ## Skeletons of texts that are put together -/

theorem blank_consSegment (x : Segment) (l : List Segment) :
    (consSegment x l).map Segment.blank = consSegment x.blank (l.map Segment.blank) := by
  cases x with
  | param k => rfl
  | text s =>
    by_cases hs : s = ""
    · simp [consSegment, Segment.blank, hs]
    · cases l with
      | nil => simp [consSegment, Segment.blank, hs]
      | cons head more => cases head <;> simp [consSegment, Segment.blank, hs]

@[simp] theorem skeleton_empty : empty.skeleton = empty := rfl

@[simp] theorem skeleton_param (k : Handle) : (param k).skeleton = param ⟨0⟩ := rfl

@[simp] theorem skeleton_text (s : String) : (text s).skeleton = text s :=
  congrArg Fragment.mk (blank_consSegment (.text s) [])

@[simp] theorem skeleton_append (f g : Fragment) : (f ++ g).skeleton = f.skeleton ++ g.skeleton := by
  have key : ∀ l : List Segment, (l.foldr consSegment g.segments).map Segment.blank =
      (l.map Segment.blank).foldr consSegment (g.segments.map Segment.blank) := by
    intro l
    induction l with
    | nil => rfl
    | cons x l ih => rw [List.foldr_cons, blank_consSegment, ih, List.map_cons, List.foldr_cons]
  exact congrArg Fragment.mk (key f.segments)

@[simp] theorem skeleton_join (separator : String) (fs : List Fragment) :
    (join separator fs).skeleton = join separator (fs.map skeleton) := by
  induction fs with
  | nil => rfl
  | cons f rest ih =>
    by_cases hr : rest = []
    · subst hr; rfl
    · rw [join_cons separator f hr, List.map_cons, join_cons separator _ (by simpa using hr)]
      simp [ih]

@[simp] theorem isEmpty_skeleton (f : Fragment) : f.skeleton.isEmpty = f.isEmpty := by
  simp [isEmpty, skeleton]

theorem length_handles_skeleton (f : Fragment) : f.skeleton.handles.length = f.handles.length := by
  have key : ∀ l : List Segment,
      (handles ⟨l.map Segment.blank⟩).length = (handles ⟨l⟩).length := by
    intro l
    induction l with
    | nil => rfl
    | cons x l ih =>
      cases x with
      | text s => exact ih
      | param k => exact congrArg Nat.succ ih
  exact key f.segments

theorem isEmpty_eq_of_skeleton {f g : Fragment} (h : f.skeleton = g.skeleton) :
    f.isEmpty = g.isEmpty := by
  rw [← isEmpty_skeleton, h, isEmpty_skeleton]

theorem length_handles_eq_of_skeleton {f g : Fragment} (h : f.skeleton = g.skeleton) :
    f.handles.length = g.handles.length := by
  rw [← length_handles_skeleton, h, length_handles_skeleton]

/-! ## Names in the blanks -/

theorem resolve_eq_of_blank {t u : ParameterTable} {l l' : List Segment}
    (hblank : l.map Segment.blank = l'.map Segment.blank) : ∀ {text : String},
      List.Forall₂ (fun k k' => t.nameOf? k = u.nameOf? k') (handles ⟨l⟩) (handles ⟨l'⟩) →
        resolve t l = .ok text → resolve u l' = .ok text := by
  induction l generalizing l' with
  | nil =>
    rw [List.map_nil, eq_comm, List.map_eq_nil_iff] at hblank
    subst hblank
    exact fun _ h => h
  | cons x l ih =>
    cases l' with
    | nil => cases hblank
    | cons x' l' =>
      intro text hnames htext
      rw [List.map_cons, List.map_cons] at hblank
      obtain ⟨hx, hl⟩ := List.cons.inj hblank
      cases x with
      | text s =>
        cases x' with
        | param k' => cases hx
        | text s' =>
          cases hx
          obtain ⟨rest, hrest, hjoined⟩ := resolve_text_eq_ok_iff.mp htext
          exact resolve_text_eq_ok_iff.mpr ⟨rest, ih hl hnames hrest, hjoined⟩
      | param k =>
        cases x' with
        | text s' => cases hx
        | param k' =>
          rw [handles_cons_param, handles_cons_param, List.forall₂_cons] at hnames
          obtain ⟨name, rest, hname, hrest, hjoined⟩ := resolve_param_eq_ok_iff.mp htext
          rw [hnames.1] at hname
          exact resolve_param_eq_ok_iff.mpr ⟨name, rest, hname, ih hl hnames.2 hrest, hjoined⟩

theorem finalize_eq_of_skeleton {f g : Fragment} {t u : ParameterTable} {text : String}
    (hskeleton : f.skeleton = g.skeleton)
    (hnames : List.Forall₂ (fun k k' => t.nameOf? k = u.nameOf? k') f.handles g.handles)
    (htext : f.finalize t = .ok text) : g.finalize u = .ok text :=
  resolve_eq_of_blank (congrArg segments hskeleton) hnames htext

theorem finalize_eq_of_names {f g : Fragment} {t u : ParameterTable}
    (hskeleton : f.skeleton = g.skeleton)
    (hnames : f.handles.map t.nameOf? = g.handles.map u.nameOf?)
    (hhandles : ∀ k ∈ f.handles, k ∈ t.handles) :
    ∃ text, f.finalize t = .ok text ∧ g.finalize u = .ok text := by
  obtain ⟨text, htext⟩ := exists_finalize_iff.mpr hhandles
  have hpaired : List.Forall₂ (· = ·) (f.handles.map t.nameOf?) (g.handles.map u.nameOf?) := by
    rw [List.forall₂_eq_eq_eq]
    exact hnames
  rw [List.forall₂_map_left_iff, List.forall₂_map_right_iff] at hpaired
  exact ⟨text, htext, finalize_eq_of_skeleton hskeleton hpaired htext⟩

end Fragment

end GraphQuery
