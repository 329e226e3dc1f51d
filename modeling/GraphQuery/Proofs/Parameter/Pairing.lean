import GraphQuery.Proofs.Fragment.Skeleton
import GraphQuery.Proofs.Parameter.Ledger
import Mathlib.Order.Basic

/-!
# Handles of two runs

Where the same is done in two runs, the handles that are given out at the same point are partners.
The runs need not start with the same handle, and others may take handles in between. Tables that
are alike have the same names and partners for handles, so partners have the same name in them
(`Alike.nameOf?_eq`).
-/

namespace GraphQuery

/-- Handles with no more than one partner, all of which have been given out. -/
structure Pairing (ρ : Handle → Handle → Prop) (next next' : Nat) : Prop where
  functional : ∀ {a b c}, ρ a b → ρ a c → b = c
  injective : ∀ {a b c}, ρ a c → ρ b c → a = b
  below : ∀ {a b}, ρ a b → a.index < next ∧ b.index < next'

/-- The partners so far and as many new ones as are stored. -/
def Pairing.withNew (ρ : Handle → Handle → Prop) (next next' count : Nat) (a b : Handle) : Prop :=
  ρ a b ∨ ∃ i < count, a = ⟨next + i⟩ ∧ b = ⟨next' + i⟩

variable {ρ ρ' : Handle → Handle → Prop} {next next' : Nat}

namespace Pairing

theorem start : Pairing (fun _ _ => False) next next' :=
  ⟨False.elim, False.elim, False.elim⟩

theorem later {more more' : Nat} (h : Pairing ρ next next') :
    Pairing ρ (next + more) (next' + more') where
  functional := h.functional
  injective := h.injective
  below := fun hab =>
    ⟨Nat.lt_add_right more (h.below hab).1, Nat.lt_add_right more' (h.below hab).2⟩

theorem further (h : Pairing ρ next next') (count : Nat) :
    Pairing (Pairing.withNew ρ next next' count) (next + count) (next' + count) where
  functional := by
    rintro a b c (hab | ⟨i, _, rfl, rfl⟩) (hac | ⟨j, _, hj, rfl⟩)
    · exact h.functional hab hac
    · subst hj
      exact absurd (h.below hab).1 (by simp)
    · exact absurd (h.below hac).1 (by simp)
    · have hij : next + i = next + j := congrArg Handle.index hj
      rw [Nat.add_left_cancel hij]
  injective := by
    rintro a b c (hac | ⟨i, _, rfl, rfl⟩) (hbc | ⟨j, _, rfl, hj⟩)
    · exact h.injective hac hbc
    · subst hj
      exact absurd (h.below hac).2 (by simp)
    · exact absurd (h.below hbc).2 (by simp)
    · have hij : next' + i = next' + j := congrArg Handle.index hj
      rw [Nat.add_left_cancel hij]
  below := by
    rintro a b (hab | ⟨i, hi, rfl, rfl⟩)
    · exact ⟨Nat.lt_add_right count (h.below hab).1, Nat.lt_add_right count (h.below hab).2⟩
    · exact ⟨Nat.add_lt_add_left hi next, Nat.add_lt_add_left hi next'⟩

theorem stores {s s' t t' : Scope} {hs ks : List Handle} (h : Pairing ρ s.next t.next)
    (hstores : s.Stores hs s') (hstores' : t.Stores ks t') (hlength : hs.length = ks.length) :
    ∃ ρ', ρ ≤ ρ' ∧ Pairing ρ' s'.next t'.next ∧ List.Forall₂ ρ' hs ks := by
  have hhs := hstores.fresh
  have hks := hstores'.fresh
  rw [hlength] at hhs
  refine ⟨Pairing.withNew ρ s.next t.next ks.length, fun _ _ => .inl, ?_, ?_⟩
  · rw [hstores.next, hstores'.next, hlength]
    exact h.further ks.length
  · generalize ks.length = count at hhs hks ⊢
    rw [hhs, hks, List.forall₂_map_left_iff, List.forall₂_map_right_iff, List.forall₂_iff_get]
    refine ⟨by simp, fun i hi _ => ?_⟩
    rw [List.length_range'] at hi
    simp only [List.get_eq_getElem, List.getElem_range', Nat.one_mul]
    exact .inr ⟨i, hi, rfl, rfl⟩

end Pairing

/-! ## Tables -/

theorem Scope.names_allocate_eq {s t : Scope} (h : s.table.names = t.table.names) (v w : Json)
    {requested requested' : Option String} (hrequested : requested = requested') :
    (s.allocate v requested).2.table.names = (t.allocate w requested').2.table.names := by
  unfold allocate
  rw [ParameterTable.names_adopt, ParameterTable.names_adopt, h, hrequested]

namespace ParameterTable

/-- The names of a table, each with something of its value. -/
def namesWith {α : Type} (f : Json → α) (t : ParameterTable) : List (String × α) :=
  t.entries.map fun p => (p.name, f p.value)

variable {t u other other' : ParameterTable}

theorem names_eq_namesWith {α : Type} (f : Json → α) (t : ParameterTable) :
    t.names = (t.namesWith f).map (·.1) := by
  rw [names, namesWith, List.map_map]
  rfl

/-- Merging gives names by the names alone, and values go along with them. -/
theorem namesWith_merge_eq {α : Type} {f : Json → α} (h : t.namesWith f = u.namesWith f)
    (hother : other.namesWith f = other'.namesWith f) :
    (t.merge other).namesWith f = (u.merge other').namesWith f := by
  have key : ∀ (ps : List Parameter) (t : ParameterTable), (ps.foldl adopt t).namesWith f =
      (ps.map fun p => (p.name, f p.value)).foldl
        (fun named x => named ++ [(Naming.uniqueName x.1 (named.map (·.1)), x.2)])
        (t.namesWith f) := by
    intro ps
    induction ps with
    | nil => exact fun t => rfl
    | cons p ps ih =>
      intro t
      have hadopt : (t.adopt p).namesWith f =
          t.namesWith f ++ [(Naming.uniqueName p.name ((t.namesWith f).map (·.1)), f p.value)] := by
        rw [← names_eq_namesWith]
        simp [namesWith, adopt]
      rw [List.foldl_cons, ih, hadopt, List.map_cons, List.foldl_cons]
  unfold namesWith at hother
  unfold merge
  rw [key, key, h, hother]

theorem names_merge_eq (h : t.names = u.names) (hother : other.names = other'.names) :
    (t.merge other).names = (u.merge other').names := by
  have key : ∀ t : ParameterTable, t.namesWith (fun _ => ()) = t.names.map (·, ()) := fun t => by
    rw [names, namesWith, List.map_map]
    rfl
  have hmerged : (t.merge other).namesWith (fun _ => ()) = (u.merge other').namesWith (fun _ => ()) :=
    namesWith_merge_eq (by rw [key t, key u, h]) (by rw [key other, key other', hother])
  rw [names_eq_namesWith (fun _ => ()), names_eq_namesWith (fun _ => ()), hmerged]

/-- Tables of two runs with the same names and partners for handles. -/
structure Alike (ρ : Handle → Handle → Prop) (t u : ParameterTable) : Prop where
  names : t.names = u.names
  handles : List.Forall₂ ρ t.handles u.handles

namespace Alike

theorem empty (ρ : Handle → Handle → Prop) : Alike ρ .empty .empty :=
  ⟨rfl, .nil⟩

theorem mono (h : Alike ρ t u) (hle : ρ ≤ ρ') : Alike ρ' t u :=
  ⟨h.names, h.handles.imp hle⟩

theorem merge (h : Alike ρ t u) (hother : Alike ρ other other') :
    Alike ρ (t.merge other) (u.merge other') where
  names := names_merge_eq h.names hother.names
  handles := by
    rw [handles_merge, handles_merge]
    exact List.rel_append h.handles hother.handles

theorem nameOf?_eq (h : Alike ρ t u) (hρ : Pairing ρ next next') {a b : Handle} (hab : ρ a b) :
    t.nameOf? a = u.nameOf? b := by
  have key : ∀ ps qs : List Parameter, ps.map (·.name) = qs.map (·.name) →
      List.Forall₂ ρ (ps.map (·.handle)) (qs.map (·.handle)) →
        (ps.find? (·.handle = a)).map (·.name) = (qs.find? (·.handle = b)).map (·.name) := by
    intro ps
    induction ps with
    | nil =>
      intro qs hnames _
      rw [List.map_nil, eq_comm, List.map_eq_nil_iff] at hnames
      rw [hnames]
      rfl
    | cons p ps ih =>
      intro qs hnames hhandles
      cases qs with
      | nil => cases hnames
      | cons q qs =>
        rw [List.map_cons, List.map_cons] at hnames hhandles
        obtain ⟨hname, hnames⟩ := List.cons.inj hnames
        obtain ⟨hhandle, hhandles⟩ := List.forall₂_cons.mp hhandles
        by_cases hp : p.handle = a
        · have hq : q.handle = b := hρ.functional hhandle (hp ▸ hab)
          simp [hp, hq, hname]
        · have hq : q.handle ≠ b := fun hq => hp (hρ.injective hhandle (hq ▸ hab))
          simp only [List.find?_cons, hp, hq, decide_false]
          exact ih qs hnames hhandles
  exact key t.entries u.entries h.names h.handles

end Alike

end ParameterTable

/-! ## Keys of the values -/

namespace Json

variable {α β : Type}

theorem map_putMember (f : α → β) (key : String) (value : α) (members : List (String × α)) :
    (putMember key value members).map (Prod.map id f) =
      putMember key (f value) (members.map (Prod.map id f)) := by
  induction members with
  | nil => rfl
  | cons member rest ih =>
    obtain ⟨k, v⟩ := member
    rw [putMember]
    split
    · next hk => simp [putMember, hk]
    · next hk => simp [putMember, hk, ih]

theorem map_ofPairs (f : α → β) (pairs : List (String × α)) :
    (ofPairs pairs).map (Prod.map id f) = ofPairs (pairs.map (Prod.map id f)) := by
  have key : ∀ members : List (String × α),
      (pairs.foldl (fun members pair => putMember pair.1 pair.2 members) members).map
          (Prod.map id f) =
        (pairs.map (Prod.map id f)).foldl (fun members pair => putMember pair.1 pair.2 members)
          (members.map (Prod.map id f)) := by
    induction pairs with
    | nil => exact fun members => rfl
    | cons pair rest ih =>
      intro members
      rw [List.foldl_cons, ih, map_putMember, List.map_cons, List.foldl_cons]
      rfl
  exact key []

end Json

theorem ParameterTable.keys_values_eq {t u : ParameterTable} (h : t.names = u.names) :
    t.values.map (·.1) = u.values.map (·.1) := by
  have key : ∀ t : ParameterTable, t.values.map (·.1) =
      (Json.ofPairs (t.names.map (·, ()))).map (·.1) := by
    intro t
    have hunit := Json.map_ofPairs (fun _ => ()) (t.entries.map fun p => (p.name, p.value))
    rw [List.map_map] at hunit
    unfold names values
    rw [List.map_map]
    refine Eq.trans ?_ (congrArg (List.map (·.1)) hunit)
    rw [List.map_map]
    rfl
  rw [key, key, h]

end GraphQuery
