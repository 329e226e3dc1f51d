import GraphQuery.Proofs.Fragment
import GraphQuery.Proofs.Fragment.Resolution
import Mathlib.Data.List.Chain

/-!
# Fragments that are built

Fragments are built from the left: text and handles are pushed to the end, and text that is pushed
after text goes on with it. What is built has no empty text and no two texts side by side, and is all
that was put in, one piece after another (`Built.eq_ofPieces`). For such fragments pushing is
concatenation, and putting in the names takes concatenation of fragments to that of their texts.
-/

namespace GraphQuery

def Segment.isText : Segment → Bool
  | .text _ => true
  | .param _ => false

namespace Fragment

variable {x : Segment} {l m : List Segment} {f g : Fragment} {t : ParameterTable}

/-! ## Texts apart -/

/-- No text is empty and no two texts stand side by side. -/
structure Coalesced (l : List Segment) : Prop where
  no_empty : Segment.text "" ∉ l
  apart : l.IsChain fun x y => ¬ (x.isText ∧ y.isText)

theorem coalesced_nil : Coalesced [] := ⟨List.not_mem_nil, .nil⟩

theorem coalesced_cons : Coalesced (x :: l) ↔
    x ≠ .text "" ∧ (∀ y ∈ l.head?, ¬ (x.isText ∧ y.isText)) ∧ Coalesced l := by
  constructor
  · rintro ⟨hempty, hapart⟩
    rw [List.mem_cons, not_or] at hempty
    obtain ⟨hhead, htail⟩ := List.isChain_cons.mp hapart
    exact ⟨Ne.symm hempty.1, hhead, hempty.2, htail⟩
  · rintro ⟨hx, hhead, hempty, hapart⟩
    refine ⟨?_, List.isChain_cons.mpr ⟨hhead, hapart⟩⟩
    rw [List.mem_cons, not_or]
    exact ⟨Ne.symm hx, hempty⟩

theorem coalesced_consSegment (x : Segment) (h : Coalesced l) : Coalesced (consSegment x l) := by
  cases x with
  | param k => exact coalesced_cons.mpr ⟨by simp, by simp [Segment.isText], h⟩
  | text s =>
    by_cases hs : s = ""
    · simpa [consSegment, hs] using h
    · cases l with
      | nil => simpa [consSegment, hs] using coalesced_cons.mpr ⟨by simp [hs], by simp, h⟩
      | cons y l =>
        obtain ⟨hy, hhead, hl⟩ := coalesced_cons.mp h
        cases y with
        | text u =>
          simp only [consSegment, if_neg hs]
          exact coalesced_cons.mpr ⟨by simp [hs], hhead, hl⟩
        | param k =>
          simp only [consSegment, if_neg hs]
          exact coalesced_cons.mpr ⟨by simp [hs], by simp [Segment.isText], h⟩

theorem coalesced_foldr (l : List Segment) (h : Coalesced m) :
    Coalesced (l.foldr consSegment m) := by
  induction l with
  | nil => exact h
  | cons x l ih => exact coalesced_consSegment x ih

theorem consSegment_of_coalesced (h : Coalesced (x :: l)) : consSegment x l = x :: l := by
  obtain ⟨hx, hhead, -⟩ := coalesced_cons.mp h
  cases x with
  | param k => rfl
  | text s =>
    have hs : s ≠ "" := fun hs => hx (congrArg Segment.text hs)
    cases l with
    | nil => simp [consSegment, hs]
    | cons y l =>
      cases y with
      | text u => simp [Segment.isText] at hhead
      | param k => simp [consSegment, hs]

theorem foldr_of_coalesced (h : Coalesced (l ++ m)) : l.foldr consSegment m = l ++ m := by
  induction l with
  | nil => rfl
  | cons x l ih =>
    rw [List.cons_append] at h
    rw [List.foldr_cons, ih (coalesced_cons.mp h).2.2, consSegment_of_coalesced h, List.cons_append]

theorem append_empty (h : Coalesced f.segments) : f ++ empty = f := by
  have hsegments := foldr_of_coalesced (m := []) (by rwa [List.append_nil])
  rw [List.append_nil] at hsegments
  exact congrArg Fragment.mk hsegments

/-! ## Pieces put together -/

/-- The fragment with these pieces in it, one after another. -/
def ofPieces (l : List Segment) : Fragment :=
  ⟨l.foldr consSegment []⟩

theorem coalesced_ofPieces (l : List Segment) : Coalesced (ofPieces l).segments :=
  coalesced_foldr l coalesced_nil

theorem ofPieces_segments (h : Coalesced f.segments) : ofPieces f.segments = f :=
  append_empty h

theorem ofPieces_append (l m : List Segment) : ofPieces (l ++ m) = ofPieces l ++ ofPieces m := by
  induction l with
  | nil => rfl
  | cons x l ih =>
    have hcons : ∀ l, ofPieces (x :: l) = ⟨consSegment x (ofPieces l).segments⟩ := fun _ => rfl
    rw [List.cons_append, hcons, ih, hcons]
    exact congrArg Fragment.mk (consSegment_foldr x _ _).symm

theorem isEmpty_ofPieces_iff : (ofPieces l).isEmpty ↔ ∀ x ∈ l, x = .text "" := by
  induction l with
  | nil => simp [ofPieces, isEmpty]
  | cons x l ih =>
    rw [List.forall_mem_cons, ← ih]
    simp only [ofPieces, isEmpty, List.isEmpty_iff, List.foldr_cons]
    generalize l.foldr consSegment [] = rest
    cases x with
    | param k => simp [consSegment]
    | text s =>
      by_cases hs : s = ""
      · simp [consSegment, hs]
      · cases rest with
        | nil => simp [consSegment, hs]
        | cons y rest => cases y <;> simp [consSegment, hs]

/-! ## Pushing -/

/-- Text put at the end. It goes on with the text that is there. -/
def pushText (f : Fragment) (s : String) : Fragment :=
  if s = "" then f
  else match f.segments.getLast? with
    | some (.text u) => ⟨f.segments.dropLast ++ [.text (u ++ s)]⟩
    | _ => ⟨f.segments ++ [.text s]⟩

def pushParam (f : Fragment) (k : Handle) : Fragment :=
  ⟨f.segments ++ [.param k]⟩

def push (f : Fragment) : Segment → Fragment
  | .text s => f.pushText s
  | .param k => f.pushParam k

theorem coalesced_append_text {s : String} (hs : s ≠ "") (h : Coalesced l)
    (hlast : ∀ x ∈ l.getLast?, x.isText = false) : Coalesced (l ++ [.text s]) := by
  refine ⟨by simp [h.no_empty, Ne.symm hs], List.isChain_append.mpr ⟨h.apart, .singleton _, ?_⟩⟩
  intro x hx y _ htext
  rw [hlast x hx] at htext
  cases htext.1

theorem coalesced_append_param (h : Coalesced l) (k : Handle) : Coalesced (l ++ [.param k]) := by
  refine ⟨by simp [h.no_empty], List.isChain_append.mpr ⟨h.apart, .singleton _, ?_⟩⟩
  simp [Segment.isText]

theorem coalesced_longer {s u : String} (hs : s ≠ "") (h : Coalesced (l ++ [.text u])) :
    Coalesced (l ++ [.text s]) := by
  obtain ⟨hl, -, hlast⟩ := List.isChain_append.mp h.apart
  refine coalesced_append_text hs ⟨fun hmem => h.no_empty (List.mem_append_left _ hmem), hl⟩ ?_
  simpa [Segment.isText] using hlast

section
variable (h : Coalesced f.segments)
include h

theorem pushParam_eq (k : Handle) : f.pushParam k = f ++ param k :=
  congrArg Fragment.mk (foldr_of_coalesced (coalesced_append_param h k)).symm

theorem pushText_eq (s : String) : f.pushText s = f ++ text s := by
  by_cases hs : s = ""
  · rw [pushText, if_pos hs, hs, text_empty, append_empty h]
  have htext : text s = ⟨[.text s]⟩ := by simp [text, consSegment, hs]
  have happend : f ++ text s = ⟨f.segments.foldr consSegment [.text s]⟩ := by
    rw [htext]
    rfl
  rw [pushText, if_neg hs, happend]
  rcases f.segments.eq_nil_or_concat with hnil | ⟨init, last, hsplit⟩
  · rw [hnil]
    rfl
  · rw [List.concat_eq_append] at hsplit
    rw [hsplit] at h ⊢
    rw [List.getLast?_concat, List.dropLast_concat]
    cases last with
    | text u =>
      have hu : u ≠ "" := fun hu => h.no_empty (by simp [hu])
      have hlonger := coalesced_longer (s := u ++ s) (by simp [hs]) h
      have hmeet : consSegment (.text u) [.text s] = [.text (u ++ s)] := by simp [consSegment, hu]
      rw [List.foldr_append, List.foldr_cons, List.foldr_nil, hmeet, foldr_of_coalesced hlonger]
    | param k =>
      have hlonger := coalesced_append_text hs h (by simp [Segment.isText])
      rw [foldr_of_coalesced hlonger]

theorem push_eq (x : Segment) : f.push x = f ++ ofPieces [x] := by
  cases x with
  | text s => exact pushText_eq h s
  | param k => exact pushParam_eq h k

end

theorem coalesced_append (hg : Coalesced g.segments) : Coalesced (f ++ g).segments :=
  coalesced_foldr f.segments hg

theorem foldl_push (h : Coalesced f.segments) (l : List Segment) :
    l.foldl push f = f ++ ofPieces l := by
  induction l generalizing f with
  | nil => exact (append_empty h).symm
  | cons x l ih =>
    rw [List.foldl_cons, push_eq h, ih (coalesced_append (coalesced_ofPieces [x])), append_assoc,
      ← ofPieces_append]
    rfl

/-! ## Operations -/

mutual

/-- The fragment is built by operations that put these pieces in, in this order. -/
inductive Built : List Segment → Fragment → Prop
  | empty : Built [] empty
  | text (s : String) : Built [.text s] (text s)
  | param (k : Handle) : Built [.param k] (param k)
  | pushText {l : List Segment} {f : Fragment} (s : String) : Built l f →
      Built (l ++ [.text s]) (f.pushText s)
  | pushParam {l : List Segment} {f : Fragment} (k : Handle) : Built l f →
      Built (l ++ [.param k]) (f.pushParam k)
  | append {l m : List Segment} {f g : Fragment} : Built l f → Built m g → Built (l ++ m) (f ++ g)
  | join {ls : List (List Segment)} {fs : List Fragment} (separator : String) : BuiltAll ls fs →
      Built (List.intercalate [.text separator] ls) (join separator fs)
  | parenthesized {l : List Segment} {f : Fragment} : Built l f →
      Built (.text "(" :: (l ++ [.text ")"])) f.parenthesized

inductive BuiltAll : List (List Segment) → List Fragment → Prop
  | nil : BuiltAll [] []
  | cons {l : List Segment} {f : Fragment} {ls : List (List Segment)} {fs : List Fragment} :
      Built l f → BuiltAll ls fs → BuiltAll (l :: ls) (f :: fs)

end

theorem join_ofPieces (separator : String) (ls : List (List Segment)) :
    join separator (ls.map ofPieces) = ofPieces (List.intercalate [.text separator] ls) := by
  induction ls with
  | nil => rfl
  | cons l ls ih =>
    cases ls with
    | nil => simp
    | cons m ls =>
      rw [List.map_cons, join_cons separator _ (by simp), ih, List.intercalate_cons_cons,
        ofPieces_append, ofPieces_append, append_assoc]
      rfl

mutual

/-- What is built has all the pieces in it and nothing else. -/
theorem Built.eq_ofPieces {l : List Segment} {f : Fragment} (h : Built l f) : f = ofPieces l := by
  match h with
  | .empty => rfl
  | .text s => rfl
  | .param k => rfl
  | @Built.pushText l f s hf =>
    obtain rfl := hf.eq_ofPieces
    rw [pushText_eq (coalesced_ofPieces l), ofPieces_append]
    rfl
  | @Built.pushParam l f k hf =>
    obtain rfl := hf.eq_ofPieces
    rw [pushParam_eq (coalesced_ofPieces l), ofPieces_append]
    rfl
  | .append hf hg => rw [hf.eq_ofPieces, hg.eq_ofPieces, ofPieces_append]
  | .join separator hall => rw [hall.eq_map, join_ofPieces]
  | @Built.parenthesized l f hf =>
    obtain rfl := hf.eq_ofPieces
    rw [← List.singleton_append, ofPieces_append, ofPieces_append, parenthesized, append_assoc]
    rfl

theorem BuiltAll.eq_map {ls : List (List Segment)} {fs : List Fragment} (h : BuiltAll ls fs) :
    fs = ls.map ofPieces := by
  match h with
  | .nil => rfl
  | .cons hf hall =>
    rw [hf.eq_ofPieces, hall.eq_map]
    rfl

end

/-! ## Names put in -/

theorem seamless_resolve (t : ParameterTable) : Seamless (resolve t) where
  empty_text l := by
    rw [resolve]
    cases resolve t l <;> simp [Except.map]
  texts s u l := by
    simp only [resolve]
    cases resolve t l <;> simp [Except.map, String.append_assoc]
  cons x l m h := by cases x <;> simp only [resolve, h]

theorem resolve_append_of_ok {a b : String} (hl : resolve t l = .ok a) (hm : resolve t m = .ok b) :
    resolve t (l ++ m) = .ok (a ++ b) := by
  induction l generalizing a with
  | nil =>
    obtain rfl := Except.ok.inj hl
    simpa using hm
  | cons x l ih =>
    cases x with
    | text s =>
      obtain ⟨more, hmore, rfl⟩ := resolve_text_eq_ok_iff.mp hl
      exact resolve_text_eq_ok_iff.mpr ⟨_, ih hmore, String.append_assoc.symm⟩
    | param k =>
      obtain ⟨name, more, hname, hmore, rfl⟩ := resolve_param_eq_ok_iff.mp hl
      exact resolve_param_eq_ok_iff.mpr ⟨name, _, hname, ih hmore, String.append_assoc.symm⟩

theorem finalize_append {a b : String} (hf : f.finalize t = .ok a) (hg : g.finalize t = .ok b) :
    (f ++ g).finalize t = .ok (a ++ b) :=
  ((seamless_resolve t).append_eq f g).trans (resolve_append_of_ok hf hg)

theorem map_eq_error_iff {α β ε : Type} {r : Except ε α} {φ : α → β} {e : ε} :
    r.map φ = .error e ↔ r = .error e := by
  cases r <;> simp [Except.map]

/-- The names cannot be put in just if a handle is not in the table, and the first one is told. -/
theorem resolve_eq_error_iff {e : Dangling} :
    resolve t l = .error e ↔ (handles ⟨l⟩).find? (· ∉ t.handles) = some e.handle := by
  induction l with
  | nil => exact ⟨fun h => (nomatch h), fun h => (nomatch h)⟩
  | cons x l ih =>
    cases x with
    | text s =>
      rw [resolve, map_eq_error_iff, ih]
      rfl
    | param k =>
      rw [handles_cons_param, resolve_param]
      by_cases hk : k ∈ t.handles
      · obtain ⟨name, hname⟩ := ParameterTable.exists_nameOf? hk
        rw [List.find?_cons_of_neg (by simpa using hk), hname, ← ih]
        exact map_eq_error_iff
      · have hname : t.nameOf? k = none := by
          rw [ParameterTable.nameOf?, ParameterTable.get?_eq_none_iff.mpr hk]
          rfl
        rw [List.find?_cons_of_pos (by simpa using hk), hname]
        cases e
        simp

/-- **Built fragments are a monoid that putting in names respects.** -/
theorem monoid_of_built {pieces : List Segment} (hf : Built pieces f) :
    Coalesced f.segments ∧ (f.isEmpty ↔ ∀ x ∈ pieces, x = .text "") ∧
      (empty ++ f = f ∧ f ++ empty = f ∧ ∀ g h : Fragment, f ++ g ++ h = f ++ (g ++ h)) ∧
      (∀ more g, Built more g → f ++ g = g.segments.foldl push f) ∧
      (∀ separator fs gs, fs ≠ [] → gs ≠ [] →
        join separator (fs ++ gs) = join separator [join separator fs, join separator gs]) ∧
      ∀ t : ParameterTable,
        (∀ g a b, f.finalize t = .ok a → g.finalize t = .ok b →
          (f ++ g).finalize t = .ok (a ++ b)) ∧
        ∀ e : Dangling, f.finalize t = .error e ↔
          f.handles.find? (· ∉ t.handles) = some e.handle := by
  have hpieces := hf.eq_ofPieces
  have hcoalesced : Coalesced f.segments := hpieces ▸ coalesced_ofPieces pieces
  have hfinal : ∀ t : ParameterTable,
      (∀ g a b, f.finalize t = .ok a → g.finalize t = .ok b → (f ++ g).finalize t = .ok (a ++ b)) ∧
        ∀ e : Dangling, f.finalize t = .error e ↔
          f.handles.find? (· ∉ t.handles) = some e.handle :=
    fun t => ⟨fun g a b => finalize_append, fun e => resolve_eq_error_iff⟩
  refine ⟨hcoalesced, ?_, ⟨rfl, append_empty hcoalesced, append_assoc f⟩, ?_, ?_, hfinal⟩
  · rw [hpieces]
    exact isEmpty_ofPieces_iff
  · intro more g hg
    rw [foldl_push hcoalesced, ofPieces_segments (hg.eq_ofPieces ▸ coalesced_ofPieces more)]
  · intro separator fs gs hfs hgs
    rw [join_append separator hfs hgs, join_cons separator _ (by simp), join_singleton]

/-- Empty text on either side of a separator. -/
def besideNothing : Fragment :=
  (join " OR " [text "", (param ⟨0⟩).pushText ""]).parenthesized

theorem monoid_of_built_besideNothing :
    Built [.text "(", .text "", .text " OR ", .param ⟨0⟩, .text "", .text ")"] besideNothing ∧
      besideNothing.segments = [.text "( OR ", .param ⟨0⟩, .text ")"] ∧
      ¬ besideNothing.isEmpty ∧ besideNothing ++ empty = besideNothing ∧
      besideNothing.finalize .empty = .error ⟨⟨0⟩⟩ := by
  have hbuilt : Built [.text "(", .text "", .text " OR ", .param ⟨0⟩, .text "", .text ")"]
      besideNothing :=
    .parenthesized (.join " OR " (.cons (.text "") (.cons (.pushText "" (.param ⟨0⟩)) .nil)))
  obtain ⟨-, hempty, ⟨-, happend, -⟩, -, -, hfinal⟩ := monoid_of_built hbuilt
  refine ⟨hbuilt, by decide, fun h => ?_, happend, (hfinal .empty).2 ⟨⟨0⟩⟩ |>.mpr (by decide)⟩
  exact absurd (hempty.mp h) (by simp)

end Fragment

end GraphQuery
