import GraphQuery.Parameter
import GraphQuery.Proofs.Naming.Fresh

/-!
# Tables of parameters

`Reachable next t`: the table `t` can exist when the handles below `next` have been issued, after
any operations on it and on the tables that were merged into it. `lookup_of_reachable`: in such a
table names and handles are pairwise distinct, so every parameter can be looked up by its handle,
by its name and among the values.
-/

namespace GraphQuery

/-- Handles are 64-bit numbers, counted from one. -/
def Handle.limit : Nat := 0x10000000000000000

def Handle.Issued (next : Nat) (h : Handle) : Prop :=
  0 < h.index ∧ h.index < next

theorem Handle.Issued.mono {next later : Nat} {h : Handle} (hi : h.Issued next)
    (hle : next ≤ later) : h.Issued later :=
  ⟨hi.1, Nat.lt_of_lt_of_le hi.2 hle⟩

theorem Handle.length_lt {next : Nat} {hs : List Handle} (hn : hs.Nodup)
    (hi : ∀ h ∈ hs, h.Issued next) (hpos : 0 < next) : hs.length < next := by
  have hindex : ((0 : Nat) :: hs.map (·.index)).Nodup := by
    refine List.nodup_cons.mpr ⟨?_, List.Pairwise.map _ ?_ hn⟩
    · intro hmem
      obtain ⟨h, hh, h0⟩ := List.mem_map.mp hmem
      exact absurd h0 (Nat.pos_iff_ne_zero.mp (hi h hh).1)
    · rintro ⟨a⟩ ⟨b⟩ hab heq
      exact hab (congrArg Handle.mk heq)
  have hsub : (0 :: hs.map (·.index)) ⊆ List.range next := by
    intro i hmem
    rw [List.mem_range]
    rcases List.mem_cons.mp hmem with rfl | hmem
    · exact hpos
    · obtain ⟨h, hh, rfl⟩ := List.mem_map.mp hmem
      exact (hi h hh).2
  have hle := (List.subperm_of_subset hindex hsub).length_le
  rw [List.length_cons, List.length_map, List.length_range] at hle
  exact hle

namespace ParameterTable

theorem length_names (t : ParameterTable) : t.names.length = t.handles.length := by
  simp [names, handles]

theorem nodup_names_adopt {t : ParameterTable} (hn : t.names.Nodup)
    (hroom : t.names.length < Naming.maxSuffix) (p : Parameter) : (t.adopt p).names.Nodup := by
  have hname : Naming.uniqueName p.name t.names ∉ t.names := Naming.uniqueName_not_mem (Nat.le_of_lt hroom)
  rw [names_adopt, List.nodup_append]
  refine ⟨hn, by simp, fun a ha b hb hab => ?_⟩
  rw [List.mem_singleton] at hb
  exact hname (hb ▸ hab ▸ ha)

/-! ## The invariant of a table -/

/-- Names and handles of a table are distinct, and its handles have been given out. -/
structure Sound (next : Nat) (t : ParameterTable) : Prop where
  names : t.names.Nodup
  handles : t.handles.Nodup
  issued : ∀ h ∈ t.handles, h.Issued next
  pos : 0 < next
  within : next ≤ Handle.limit

namespace Sound
variable {next : Nat} {t : ParameterTable}

theorem later {next' : Nat} (hs : Sound next t) (hle : next ≤ next') (hlim : next' ≤ Handle.limit) :
    Sound next' t where
  names := hs.names
  handles := hs.handles
  issued := fun h hh => (hs.issued h hh).mono hle
  pos := Nat.lt_of_lt_of_le hs.pos hle
  within := hlim

theorem adopt (hs : Sound next t) {p : Parameter} (hp : p.handle.Issued next)
    (hnew : p.handle ∉ t.handles) : Sound next (t.adopt p) := by
  have hnodup : (t.handles ++ [p.handle]).Nodup := by
    rw [List.nodup_append]
    refine ⟨hs.handles, by simp, fun a ha b hb hab => ?_⟩
    rw [List.mem_singleton] at hb
    exact hnew (hb ▸ hab ▸ ha)
  have hissued : ∀ h ∈ t.handles ++ [p.handle], h.Issued next := by
    intro h hh
    rcases List.mem_append.mp hh with hh | hh
    · exact hs.issued h hh
    · rw [List.mem_singleton] at hh
      exact hh ▸ hp
  -- with one more handle given out, there are fewer names than suffixes
  have hroom : t.names.length < Naming.maxSuffix := by
    have hlen := Handle.length_lt hnodup hissued hs.pos
    have hlim := hs.within
    rw [List.length_append, List.length_singleton, ← length_names] at hlen
    unfold Handle.limit at hlim
    unfold Naming.maxSuffix
    omega
  exact ⟨nodup_names_adopt hs.names hroom p, by rwa [handles_adopt], by rwa [handles_adopt],
    hs.pos, hs.within⟩

theorem foldl_adopt {ps : List Parameter} : ∀ {t : ParameterTable}, Sound next t →
    (∀ p ∈ ps, p.handle.Issued next) → (t.handles ++ ps.map (·.handle)).Nodup →
    Sound next (ps.foldl ParameterTable.adopt t) := by
  induction ps with
  | nil => intro t hs _ _; exact hs
  | cons p ps ih =>
    intro t hs hissued hnodup
    rw [List.map_cons, List.append_cons] at hnodup
    have hnew : p.handle ∉ t.handles := by
      have hhead := (List.nodup_append.mp (List.nodup_append.mp hnodup).1).2.2
      exact fun hmem => hhead _ hmem _ (List.mem_singleton_self _) rfl
    refine ih (hs.adopt (hissued p (List.mem_cons_self ..)) hnew)
      (fun q hq => hissued q (List.mem_cons_of_mem _ hq)) ?_
    rwa [handles_adopt]

theorem merge {other : ParameterTable} (hs : Sound next t) (ho : Sound next other)
    (hdisjoint : ∀ h ∈ t.handles, h ∉ other.handles) : Sound next (t.merge other) := by
  refine foldl_adopt hs (fun p hp => ho.issued _ (List.mem_map_of_mem hp)) ?_
  rw [List.nodup_append]
  exact ⟨hs.handles, ho.handles, fun a ha b hb hab => hdisjoint a ha (hab ▸ hb)⟩

theorem of_sublist {t' : ParameterTable} (hs : Sound next t)
    (hsub : t'.entries.Sublist t.entries) : Sound next t' where
  names := hs.names.sublist (hsub.map _)
  handles := hs.handles.sublist (hsub.map _)
  issued := fun h hh => hs.issued h ((hsub.map _).subset hh)
  pos := hs.pos
  within := hs.within

theorem allocate (hs : Sound next t) (hlim : next < Handle.limit) (value : Json)
    (requested : Option String) : Sound (next + 1) ((⟨t, next⟩ : Scope).allocate value requested).2.table := by
  refine (hs.later (Nat.le_succ next) hlim).adopt ⟨hs.pos, Nat.lt_succ_self next⟩ fun hmem => ?_
  exact absurd (hs.issued _ hmem).2 (Nat.lt_irrefl next)

end Sound

/-! ## Tables that operations lead to -/

/-- The tables that there can be when the handles below `next` have been given out, to this table
or elsewhere. -/
inductive Reachable : Nat → ParameterTable → Prop
  | empty : Reachable 1 .empty
  | later {next next' : Nat} {t : ParameterTable} : Reachable next t → next ≤ next' →
      next' ≤ Handle.limit → Reachable next' t
  | allocate {next : Nat} {t : ParameterTable} (value : Json) (requested : Option String) :
      Reachable next t → next < Handle.limit →
      Reachable (next + 1) ((⟨t, next⟩ : Scope).allocate value requested).2.table
  | adopt {next : Nat} {t : ParameterTable} (p : Parameter) : Reachable next t →
      p.handle.Issued next → p.handle ∉ t.handles → Reachable next (t.adopt p)
  | removeNamed {next : Nat} {t : ParameterTable} (name : String) : Reachable next t →
      Reachable next (t.removeNamed name)
  | remove {next : Nat} {t : ParameterTable} (h : Handle) : Reachable next t →
      Reachable next (t.remove h)
  | merge {next : Nat} {t other : ParameterTable} : Reachable next t → Reachable next other →
      (∀ h ∈ t.handles, h ∉ other.handles) → Reachable next (t.merge other)

theorem Reachable.sound {next : Nat} {t : ParameterTable} (h : Reachable next t) :
    Sound next t := by
  induction h with
  | empty =>
    exact ⟨List.nodup_nil, List.nodup_nil, by simp, Nat.one_pos, by decide⟩
  | later _ hle hlim ih => exact ih.later hle hlim
  | allocate value requested _ hlim ih => exact ih.allocate hlim value requested
  | adopt p _ hp hnew ih => exact ih.adopt hp hnew
  | removeNamed name _ ih => exact ih.of_sublist (List.eraseP_sublist ..)
  | remove h _ ih => exact ih.of_sublist (List.eraseP_sublist ..)
  | merge _ _ hdisjoint ih iho => exact ih.merge iho hdisjoint

end ParameterTable

/-! ## Looking parameters up -/

namespace Json
variable {α : Type}

theorem putMember_of_not_mem {key : String} (value : α) {members : List (String × α)}
    (h : key ∉ members.map (·.1)) : putMember key value members = members ++ [(key, value)] := by
  induction members with
  | nil => rfl
  | cons member rest ih =>
    obtain ⟨k, v⟩ := member
    rw [List.map_cons, List.mem_cons, not_or] at h
    rw [putMember, if_neg (Ne.symm h.1), ih h.2]
    rfl

theorem foldl_putMember_of_nodup (pairs : List (String × α)) : ∀ before : List (String × α),
    ((before ++ pairs).map (·.1)).Nodup →
      pairs.foldl (fun members pair => putMember pair.1 pair.2 members) before =
        before ++ pairs := by
  induction pairs with
  | nil => simp
  | cons pair rest ih =>
    intro before hn
    have hnew : pair.1 ∉ before.map (·.1) := by
      rw [List.map_append, List.map_cons] at hn
      exact fun hmem => (List.nodup_append.mp hn).2.2 _ hmem _ (List.mem_cons_self ..) rfl
    rw [List.append_cons] at hn
    rw [List.foldl_cons, putMember_of_not_mem _ hnew, ih _ hn, ← List.append_cons]

theorem ofPairs_of_nodup {pairs : List (String × α)} (h : (pairs.map (·.1)).Nodup) :
    ofPairs pairs = pairs :=
  foldl_putMember_of_nodup pairs [] h

end Json

namespace ParameterTable

theorem find?_of_nodup {α β : Type} [DecidableEq β] {key : α → β} {l : List α}
    (hn : (l.map key).Nodup) {a : α} (ha : a ∈ l) : l.find? (fun x => key x = key a) = some a := by
  induction l with
  | nil => cases ha
  | cons x l ih =>
    rw [List.map_cons, List.nodup_cons] at hn
    rcases List.mem_cons.mp ha with rfl | ha
    · simp
    · have hx : key x ≠ key a := fun e => hn.1 (e ▸ List.mem_map_of_mem ha)
      rw [List.find?_cons_of_neg (by simpa using hx), ih hn.2 ha]

theorem lookup_of_nodup {ps : List Parameter} (hn : (ps.map (·.name)).Nodup) {p : Parameter}
    (hp : p ∈ ps) : (ps.map fun q => (q.name, q.value)).lookup p.name = some p.value := by
  induction ps with
  | nil => cases hp
  | cons q ps ih =>
    rw [List.map_cons, List.nodup_cons] at hn
    rw [List.map_cons, List.lookup_cons]
    rcases List.mem_cons.mp hp with rfl | hp
    · simp
    · have hq : p.name ≠ q.name := fun e => hn.1 (e ▸ List.mem_map_of_mem hp)
      rw [beq_false_of_ne hq]
      exact ih hn.2 hp

theorem values_eq_of_nodup {t : ParameterTable} (h : t.names.Nodup) :
    t.values = t.entries.map fun p => (p.name, p.value) := by
  refine Json.ofPairs_of_nodup ?_
  rw [List.map_map]
  exact h

theorem Sound.values_eq {next : Nat} {t : ParameterTable} (hs : Sound next t) :
    t.values = t.entries.map fun p => (p.name, p.value) :=
  values_eq_of_nodup hs.names

/-- **Names and handles never clash.** In a table that operations have led to, the names are
pairwise distinct and so are the handles. The values by name are the parameters in the order of
their arrival, none of them lost; and looking a parameter up by its handle, by its name or among the
values comes to the same. -/
theorem lookup_of_reachable {next : Nat} {t : ParameterTable} (h : Reachable next t) :
    t.names.Nodup ∧ t.handles.Nodup ∧
      t.values = (t.entries.map fun p => (p.name, p.value)) ∧ t.values.length = t.size ∧
      (∀ p ∈ t.entries, t.get? p.handle = some p ∧ t.named? p.name = some p ∧
        t.values.lookup p.name = some p.value) ∧
      ∀ k, ((t.get? k).map (·.name)).bind t.named? = t.get? k := by
  have hs := h.sound
  have hnamed : ∀ p ∈ t.entries, t.named? p.name = some p := fun p hp =>
    find?_of_nodup hs.names hp
  refine ⟨hs.names, hs.handles, hs.values_eq, by rw [hs.values_eq, List.length_map]; rfl, ?_, ?_⟩
  · intro p hp
    rw [hs.values_eq]
    exact ⟨find?_of_nodup hs.handles hp, hnamed p hp, lookup_of_nodup hs.names hp⟩
  · intro k
    cases hk : t.get? k with
    | none => rfl
    | some p => exact hnamed p (List.mem_of_find?_eq_some hk)

/-- Two parameters that asked for one name, the first of them gone again. -/
def survivor : ParameterTable :=
  let first := (⟨.empty, 1⟩ : Scope).allocate .null (some "name")
  let second := first.2.allocate .null (some "name")
  second.2.table.removeNamed "name"

/-- A table into which a parameter from elsewhere and the `survivor` were merged. -/
def crowded : ParameterTable :=
  let first := (⟨.empty, 3⟩ : Scope).allocate .null (some "Name_02")
  (first.2.table.adopt ⟨⟨4⟩, "name 2", .null⟩).merge survivor

theorem lookup_of_reachable_crowded : Reachable 5 crowded ∧
    crowded.names = ["name2", "name3", "name4"] ∧ crowded.names.Nodup ∧
      crowded.values.length = 3 := by
  have hsurvivor : Reachable 3 survivor := by
    refine .removeNamed "name" (.allocate .null (some "name") ?_ (by decide))
    exact .allocate .null (some "name") .empty (by decide)
  have hown : Reachable 4 ((⟨.empty, 3⟩ : Scope).allocate .null (some "Name_02")).2.table :=
    .allocate .null (some "Name_02") (.later .empty (by decide) (by decide)) (by decide)
  have hreach : Reachable 5 crowded := by
    refine .merge (.adopt _ ?_ ⟨by decide, by decide⟩ (by decide)) ?_ (by decide)
    · exact hown.later (by decide) (by decide)
    · exact hsurvivor.later (by decide) (by decide)
  have hlookup := lookup_of_reachable hreach
  refine ⟨hreach, by decide +kernel, hlookup.1, ?_⟩
  rw [hlookup.2.2.2.1]
  rfl

end ParameterTable

end GraphQuery
