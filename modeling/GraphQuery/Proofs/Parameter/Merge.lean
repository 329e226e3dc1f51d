import GraphQuery.Proofs.Fragment.Resolution
import GraphQuery.Proofs.Parameter.Table

/-!
# What merging leaves alone

Merging puts the parameters of one table after those of another and changes nothing of them but
names. `merge_frame_of_reachable`: texts that were final before stay as they are, and a text that
refers to the table that goes in keeps its values.
-/

namespace GraphQuery

/-- What never changes about a parameter. -/
def Parameter.content (p : Parameter) : Handle × Json :=
  (p.handle, p.value)

namespace ParameterTable

variable {t other : ParameterTable} {k : Handle}

theorem exists_entries_merge (t other : ParameterTable) :
    ∃ moved, (t.merge other).entries = t.entries ++ moved ∧
      moved.map (·.content) = other.entries.map (·.content) := by
  have key : ∀ (ps : List Parameter) (t : ParameterTable),
      ∃ moved, (ps.foldl adopt t).entries = t.entries ++ moved ∧
        moved.map (·.content) = ps.map (·.content) := by
    intro ps
    induction ps with
    | nil => exact fun t => ⟨[], by simp, rfl⟩
    | cons p ps ih =>
      intro t
      obtain ⟨moved, hentries, hcontents⟩ := ih (t.adopt p)
      refine ⟨{ p with name := Naming.uniqueName p.name t.names } :: moved, ?_, ?_⟩
      · rw [List.foldl_cons, hentries]
        unfold adopt
        rw [List.append_assoc, List.singleton_append]
      · rw [List.map_cons, hcontents]
        rfl
  exact key other.entries t

/-! ## Looking up after a merge -/

theorem find?_content {ps qs : List Parameter} (h : ps.map (·.content) = qs.map (·.content)) :
    (ps.find? (·.handle = k)).map (·.content) = (qs.find? (·.handle = k)).map (·.content) := by
  have key : ∀ ps : List Parameter, (ps.find? (·.handle = k)).map (·.content) =
      (ps.map (·.content)).find? (·.1 = k) := by
    intro ps
    rw [List.find?_map]
    rfl
  rw [key ps, key qs, h]

theorem get?_merge_of_mem (other : ParameterTable) (h : k ∈ t.handles) :
    (t.merge other).get? k = t.get? k := by
  obtain ⟨moved, hentries, -⟩ := exists_entries_merge t other
  obtain ⟨p, hp⟩ := exists_get? h
  unfold get? at hp ⊢
  rw [hentries, List.find?_append, hp, Option.some_or]

theorem get?_merge_of_not_mem (other : ParameterTable) (h : k ∉ t.handles) :
    ((t.merge other).get? k).map (·.content) = (other.get? k).map (·.content) := by
  obtain ⟨moved, hentries, hcontents⟩ := exists_entries_merge t other
  have hnone : t.entries.find? (·.handle = k) = none := get?_eq_none_iff.mpr h
  unfold get?
  rw [hentries, List.find?_append, hnone, Option.none_or, find?_content hcontents]

/-- **Merging loses and disturbs nothing.** The parameters of a table stay where they are, and
those of the other follow in their order, with new names at most, all of which differ. Text that is
final with the old names stays the same, and text that refers to the other table has a final form
still, with the same values behind its placeholders. -/
theorem merge_frame_of_reachable {next : Nat} (ht : Reachable next t) (ho : Reachable next other)
    (hdisjoint : ∀ h ∈ t.handles, h ∉ other.handles) :
    (∃ moved, (t.merge other).entries = t.entries ++ moved ∧
        moved.map (·.content) = other.entries.map (·.content)) ∧
      (t.merge other).names.Nodup ∧
      (∀ f text, Fragment.finalize f t = .ok text → f.finalize (t.merge other) = .ok text) ∧
      ∀ f text, Fragment.finalize f other = .ok text →
        (∃ renamed, f.finalize (t.merge other) = .ok renamed) ∧
          ∀ k ∈ f.handles, ∃ p q, other.get? k = some p ∧ (t.merge other).get? k = some q ∧
            q.value = p.value := by
  have hold : ∀ {f : Fragment} {u : ParameterTable} {text : String}, f.finalize u = .ok text →
      ∀ k ∈ f.handles, k ∈ u.handles := fun h => Fragment.exists_finalize_iff.mp ⟨_, h⟩
  have hmerged : ∀ k, k ∈ other.handles → ∃ p q, other.get? k = some p ∧
      (t.merge other).get? k = some q ∧ q.value = p.value := by
    intro k hk
    obtain ⟨p, hp⟩ := exists_get? hk
    have hcontent := get?_merge_of_not_mem other fun hmem => hdisjoint k hmem hk
    rw [hp] at hcontent
    obtain ⟨q, hq, hpq⟩ := Option.map_eq_some_iff.mp hcontent
    exact ⟨p, q, hp, hq, congrArg Prod.snd hpq⟩
  refine ⟨exists_entries_merge t other, (ht.sound.merge ho.sound hdisjoint).names, ?_, ?_⟩
  · intro f text hf
    rw [← hf]
    refine Fragment.finalize_congr fun k hk => ?_
    unfold nameOf?
    rw [get?_merge_of_mem other (hold hf k hk)]
  · intro f text hf
    refine ⟨Fragment.exists_finalize_iff.mpr fun k hk => ?_, fun k hk => hmerged k (hold hf k hk)⟩
    obtain ⟨_, q, -, hq, -⟩ := hmerged k (hold hf k hk)
    exact mem_handles_of_get? hq

/-- A table with one parameter, which asked for a name. -/
def single (next : Nat) (requested : String) : ParameterTable :=
  ((⟨.empty, next⟩ : Scope).allocate .null (some requested)).2.table

theorem reachable_single {next : Nat} (requested : String) (hpos : 0 < next)
    (hlim : next < Handle.limit) : Reachable (next + 1) (single next requested) :=
  .allocate .null (some requested) (.later .empty hpos (Nat.le_of_lt hlim)) hlim

theorem merge_frame_of_reachable_namesakes :
    Reachable 3 (single 1 "name") ∧ Reachable 3 (single 2 "name") ∧
      ((single 1 "name").merge (single 2 "name")).names = ["name", "name2"] ∧
      (Fragment.param ⟨1⟩).finalize ((single 1 "name").merge (single 2 "name")) = .ok "$name" ∧
      (Fragment.param ⟨2⟩).finalize (single 2 "name") = .ok "$name" ∧
      ∃ renamed,
        (Fragment.param ⟨2⟩).finalize ((single 1 "name").merge (single 2 "name")) = .ok renamed := by
  have hfirst : Reachable 3 (single 1 "name") :=
    (reachable_single "name" (by decide) (by decide)).later (by decide) (by decide)
  have hsecond : Reachable 3 (single 2 "name") := reachable_single "name" (by decide) (by decide)
  obtain ⟨-, -, hkept, hmoved⟩ := merge_frame_of_reachable hfirst hsecond (by decide)
  have hname : (Fragment.param ⟨1⟩).finalize (single 1 "name") = .ok "$name" := by decide +kernel
  have hname' : (Fragment.param ⟨2⟩).finalize (single 2 "name") = .ok "$name" := by decide +kernel
  exact ⟨hfirst, hsecond, by decide +kernel, hkept _ _ hname, hname', (hmoved _ _ hname').1⟩

end ParameterTable

end GraphQuery
