import GraphQuery.Proofs.Clause.Ownership
import GraphQuery.Proofs.Pattern.History

/-!
# Queries that forget how modes were changed

A clause of patterns puts each of them into its own mode. So of their earlier modes it keeps
nothing but handles, which neither its script nor its parameters show.
`compile_eq_of_last` is about single patterns, clauses of patterns and conditions in a table with
the parameters of others.
-/

namespace GraphQuery

namespace Clause

variable {c d : Clause}

theorem params_eq_of_pairs (h : c.table.pairs = d.table.pairs) : c.table.values = d.table.values := by
  rw [ParameterTable.values_eq_ofPairs, ParameterTable.values_eq_ofPairs, h]

theorem compile_eq_of_pairs (hskeleton : c.fragment.skeleton = d.fragment.skeleton)
    (hpairs : c.table.pairs = d.table.pairs) (hc : c.fragment.handles = c.table.handles)
    (hd : d.fragment.handles = d.table.handles) (hcn : c.table.handles.Nodup)
    (hdn : d.table.handles.Nodup) : ∃ q, c.compile = .ok q ∧ d.compile = .ok q := by
  have hnames : c.fragment.handles.map c.table.nameOf? = d.fragment.handles.map d.table.nameOf? := by
    have key : ∀ {t : ParameterTable}, t.handles.Nodup →
        t.handles.map t.nameOf? = t.names.map some := fun {t} hn => by
      rw [ParameterTable.handles, ParameterTable.map_nameOf? hn (List.Subset.refl _),
        ParameterTable.names, List.map_map]
      rfl
    rw [hc, hd, key hcn, key hdn, ParameterTable.names_eq_of_pairs hpairs]
  obtain ⟨script, hscript, hscript'⟩ :=
    Fragment.finalize_eq_of_names hskeleton hnames fun k hk => hc ▸ hk
  refine ⟨⟨script, c.table.values⟩, compile_of_finalize hscript, ?_⟩
  rw [params_eq_of_pairs hpairs]
  exact compile_of_finalize hscript'

/-! ## Paths -/

end Clause

/-- Whatever became of a pattern before, the mode that it is in decides what it compiles to. -/
theorem Pattern.Made.compile_eq {shape : Shape} {args : PatternArguments} {p q : Pattern}
    (hp : Made shape args p) (hq : Made shape args q)
    (hmode : p.conditions.mode = q.conditions.mode) :
    ∃ query, (Clause.ofPattern p).compile = .ok query ∧
      (Clause.ofPattern q).compile = .ok query := by
  have hown : ∀ {p : Pattern}, Made shape args p → p.build.handles = p.table.handles := fun hp => by
    rw [handles_build, hp.keeps.handles]
  obtain ⟨hskeleton, hpairs⟩ := hp.same hq hmode
  exact Clause.compile_eq_of_pairs hskeleton hpairs (hown hp) (hown hq) hp.boundInto.nodup
    hq.boundInto.nodup

namespace Session

variable {copies copies' : Nat} {σ τ : Session}

theorem Reached.ofPaths (h : Reached copies σ) (keyword : PatternKeyword)
    {pss : List (List Pattern)} {rest : List Pattern} (hps : σ.patterns.Perm (pss.flatten ++ rest)) :
    let made := (Clause.ofPaths keyword pss σ.next).1
    made.fragment.handles = made.table.handles ∧ (copies = 0 → made.table.handles.Nodup) := by
  intro made
  have hmade := h.move (.paths σ keyword hps)
  obtain ⟨ledger, hb⟩ := hmade.backed
  refine ⟨(hb.clauses made List.mem_cons_self).handles, fun hcopies => ?_⟩
  have hheld := (hmade.apart hcopies).perm (held_addClause (σ.withPatterns rest) _).symm
  exact (hheld.of_sublist (List.sublist_append_left ..)).nodup

/-- Keys that come to one name, and the one that a whole map asks for. -/
def crowded : Pattern × Nat :=
  Pattern.ofArguments (.relation .outgoing none)
    ⟨"r", ["KNOWS"], [("a_b", .bool true), ("aB", .null), ("conditions", .string "x")]⟩ start.next

end Session

end GraphQuery
