import GraphQuery.Proofs.Clause.Compilation
import GraphQuery.Proofs.Clause.Session
import GraphQuery.Proofs.Condition.Blank
import GraphQuery.Proofs.Pattern.Alike

/-!
# Clauses with other values

Clauses of two runs are alike if their texts have the same skeleton and their tables are alike. Such
clauses compile to the same script (`Alike.sameQuery`), and a statement of clauses is alike to a
statement of clauses alike to them.
-/

namespace GraphQuery

variable {ρ ρ' : Handle → Handle → Prop} {next next' : Nat}

namespace Clause

structure Alike (ρ : Handle → Handle → Prop) (c d : Clause) : Prop where
  skeleton : c.fragment.skeleton = d.fragment.skeleton
  table : c.table.Alike ρ d.table

/-- Both compile, to the same script and to values with the same names. -/
def SameQuery (c d : Clause) : Prop :=
  c.table.names = d.table.names ∧ ∃ q r, c.compile = .ok q ∧ d.compile = .ok r ∧
    q.script = r.script ∧ q.params.map (·.1) = r.params.map (·.1)

variable {c d : Clause}

theorem Alike.mono (h : Alike ρ c d) (hle : ρ ≤ ρ') : Alike ρ' c d :=
  ⟨h.skeleton, h.table.mono hle⟩

theorem Alike.sameQuery (h : Alike ρ c d) (hρ : Pairing ρ next next')
    (hc : c.fragment.handles = c.table.handles) (hd : d.fragment.handles = d.table.handles) :
    SameQuery c d := by
  have hnames : List.Forall₂ (fun k k' => c.table.nameOf? k = d.table.nameOf? k')
      c.fragment.handles d.fragment.handles := by
    rw [hc, hd]
    exact h.table.handles.imp fun _ _ hpair => h.table.nameOf?_eq hρ hpair
  obtain ⟨script, hscript⟩ := exists_finalize hc
  have hscript' := Fragment.finalize_eq_of_skeleton h.skeleton hnames hscript
  exact ⟨h.table.names, _, _, compile_of_finalize hscript, compile_of_finalize hscript', rfl,
    ParameterTable.keys_values_eq h.table.names⟩

theorem SameQuery.through {e : Clause} (h : SameQuery c e) (h' : SameQuery d e) :
    SameQuery c d := by
  obtain ⟨hnames, q, r, hq, hr, hscript, hkeys⟩ := h
  obtain ⟨hnames', q', r', hq', hr', hscript', hkeys'⟩ := h'
  rw [hr] at hr'
  cases hr'
  exact ⟨hnames.trans hnames'.symm, q, q', hq, hq', hscript.trans hscript'.symm,
    hkeys.trans hkeys'.symm⟩

/-! ## Clauses that are made in both runs -/

def MadeAlike (ρ : Handle → Handle → Prop) (made made' : Clause × Nat) : Prop :=
  ∃ ρ', ρ ≤ ρ' ∧ Pairing ρ' made.2 made'.2 ∧ Alike ρ' made.1 made'.1

theorem madeAlike_of_stores {made made' : Clause × Nat} (hρ : Pairing ρ next next')
    (hskeleton : made.1.fragment.skeleton = made'.1.fragment.skeleton)
    (hnames : made.1.table.names = made'.1.table.names)
    (hstores : Scope.Stores ⟨.empty, next⟩ made.1.fragment.handles ⟨made.1.table, made.2⟩)
    (hstores' : Scope.Stores ⟨.empty, next'⟩ made'.1.fragment.handles ⟨made'.1.table, made'.2⟩) :
    MadeAlike ρ made made' := by
  obtain ⟨ρ', hle, hpairing, hhandles⟩ :=
    hρ.stores hstores hstores' (Fragment.length_handles_eq_of_skeleton hskeleton)
  refine ⟨ρ', hle, hpairing, hskeleton, hnames, ?_⟩
  have hown := hstores.handles
  have hown' := hstores'.handles
  rw [ParameterTable.handles_empty, List.nil_append] at hown hown'
  rw [hown, hown']
  exact hhandles

/-- The text of a condition alone. -/
def ofCondition (outer : Precedence) (field : String) (c : Condition) (next : Nat) : Clause × Nat :=
  let rendered := c.render outer field (.fresh next)
  (⟨rendered.1, rendered.2.table⟩, rendered.2.next)

theorem compile_ofCondition (outer : Precedence) (field : String) (c : Condition) :
    (ofCondition outer field c 1).1.compile = c.compile outer field := rfl

theorem ofCondition_alike {c : Condition} (hc : c.All Comparator.IsBuiltIn)
    (hρ : Pairing ρ next next') (outer : Precedence) (field : String) :
    MadeAlike ρ (ofCondition outer field c next) (ofCondition outer field c.blank next') := by
  have hsame := c.same_render_blank hc outer field (.fresh next) (.fresh next') rfl
  have hblank := c.all_blank_iff.mpr hc
  exact madeAlike_of_stores hρ hsame.skeleton hsame.names
    (c.render_stores hc outer field (.fresh next))
    (c.blank.render_stores hblank outer field (.fresh next'))

theorem filter_alike {c : Condition} (hc : c.All Comparator.IsBuiltIn)
    (hρ : Pairing ρ next next') : MadeAlike ρ (filter c next) (filter c.blank next') := by
  have hsame := c.same_render_blank hc .none "" (.fresh next) (.fresh next') rfl
  have hskeleton : (filter c next).1.fragment.skeleton =
      (filter c.blank next').1.fragment.skeleton := by
    unfold filter
    simp only [Fragment.isEmpty_eq_of_skeleton hsame.skeleton]
    split
    · rfl
    · exact (hsame.text_append "WHERE ").skeleton
  exact madeAlike_of_stores hρ hskeleton hsame.names (filter_stores hc next)
    (filter_stores (c.all_blank_iff.mpr hc) next')

/-! ## Paths -/

structure ScopesAlike (ρ : Handle → Handle → Prop) (s t : Scope) : Prop where
  pairing : Pairing ρ s.next t.next
  table : s.table.Alike ρ t.table

theorem path_alike (mode : ConditionMode) {ps : List Pattern} :
    ∀ {ρ : Handle → Handle → Prop} {qs : List Pattern} {s t : Scope},
      (∀ p ∈ ps, p.build.handles = p.table.handles) →
      (∀ q ∈ qs, q.build.handles = q.table.handles) →
      List.Forall₂ (Pattern.Alike ρ) ps qs → ScopesAlike ρ s t →
      ∃ ρ', ρ ≤ ρ' ∧ (path mode ps s).1.skeleton = (path mode qs t).1.skeleton ∧
        ScopesAlike ρ' (path mode ps s).2 (path mode qs t).2 := by
  induction ps with
  | nil =>
    intro ρ qs s t _ _ h hst
    cases h
    exact ⟨ρ, le_refl ρ, rfl, hst⟩
  | cons p ps ih =>
    intro ρ qs s t hps hqs h hst
    cases h with
    | @cons _ q _ qs hp h =>
      rw [List.forall_mem_cons] at hps hqs
      obtain ⟨ρ₁, hle, hpairing, hchanged⟩ := hp.setMode hst.pairing hps.1 hqs.1 mode
      have hmerged : ScopesAlike ρ₁
          ⟨s.table.merge (p.setMode mode s.next).1.table, (p.setMode mode s.next).2⟩
          ⟨t.table.merge (q.setMode mode t.next).1.table, (q.setMode mode t.next).2⟩ :=
        ⟨hpairing, (hst.table.mono hle).merge hchanged.table⟩
      obtain ⟨ρ₂, hle', hrest, hscopes⟩ :=
        ih hps.2 hqs.2 (h.imp fun _ _ halike => halike.mono hle) hmerged
      refine ⟨ρ₂, hle.trans hle', ?_, hscopes⟩
      unfold path
      rw [Fragment.skeleton_append, Fragment.skeleton_append, hchanged.skeleton_build, hrest]

theorem paths_alike (mode : ConditionMode) {pss : List (List Pattern)} :
    ∀ {ρ : Handle → Handle → Prop} {qss : List (List Pattern)} {s t : Scope},
      (∀ ps ∈ pss, ∀ p ∈ ps, p.build.handles = p.table.handles) →
      (∀ qs ∈ qss, ∀ q ∈ qs, q.build.handles = q.table.handles) →
      List.Forall₂ (List.Forall₂ (Pattern.Alike ρ)) pss qss → ScopesAlike ρ s t →
      ∃ ρ', ρ ≤ ρ' ∧ (paths mode pss s).1.map Fragment.skeleton =
          (paths mode qss t).1.map Fragment.skeleton ∧
        ScopesAlike ρ' (paths mode pss s).2 (paths mode qss t).2 := by
  induction pss with
  | nil =>
    intro ρ qss s t _ _ h hst
    cases h
    exact ⟨ρ, le_refl ρ, rfl, hst⟩
  | cons ps pss ih =>
    intro ρ qss s t hpss hqss h hst
    cases h with
    | @cons _ qs _ qss hps h =>
      rw [List.forall_mem_cons] at hpss hqss
      obtain ⟨ρ₁, hle, hfirst, hbetween⟩ := path_alike mode hpss.1 hqss.1 hps hst
      have hmono : ∀ ps qs, List.Forall₂ (Pattern.Alike ρ) ps qs →
          List.Forall₂ (Pattern.Alike ρ₁) ps qs :=
        fun ps qs hps => hps.imp fun _ _ halike => halike.mono hle
      obtain ⟨ρ₂, hle', hrest, hscopes⟩ := ih hpss.2 hqss.2 (h.imp hmono) hbetween
      refine ⟨ρ₂, hle.trans hle', ?_, hscopes⟩
      unfold paths
      rw [List.map_cons, List.map_cons, hfirst, hrest]

theorem ofPaths_alike (keyword : PatternKeyword) {pss qss : List (List Pattern)}
    (hρ : Pairing ρ next next')
    (hpss : ∀ ps ∈ pss, ∀ p ∈ ps, p.build.handles = p.table.handles)
    (hqss : ∀ qs ∈ qss, ∀ q ∈ qs, q.build.handles = q.table.handles)
    (h : List.Forall₂ (List.Forall₂ (Pattern.Alike ρ)) pss qss) :
    MadeAlike ρ (ofPaths keyword pss next) (ofPaths keyword qss next') := by
  have hfresh : ScopesAlike ρ (.fresh next) (.fresh next') := ⟨hρ, .empty ρ⟩
  obtain ⟨ρ', hle, htexts, hscopes⟩ := paths_alike keyword.mode hpss hqss h hfresh
  refine ⟨ρ', hle, hscopes.pairing, ?_, hscopes.table⟩
  unfold ofPaths
  simp only [Fragment.skeleton_append, Fragment.skeleton_join, htexts, Fragment.skeleton_text]

end Clause

/-! ## Statements -/

namespace Statement

structure Alike (ρ : Handle → Handle → Prop) (s t : Statement) : Prop where
  skeletons : s.clauses.map Fragment.skeleton = t.clauses.map Fragment.skeleton
  table : s.table.Alike ρ t.table

theorem Alike.attach {s t : Statement} (h : Alike ρ s t) {c d : Clause} (hcd : c.Alike ρ d) :
    Alike ρ (s.attach c) (t.attach d) where
  skeletons := by
    unfold Statement.attach
    simp only [Fragment.isEmpty_eq_of_skeleton hcd.skeleton]
    split
    · exact h.skeletons
    · rw [List.map_append, List.map_append, h.skeletons, List.map_singleton, List.map_singleton,
        hcd.skeleton]
  table := h.table.merge hcd.table

theorem ofClauses_alike {cs ds : List Clause} (h : List.Forall₂ (Clause.Alike ρ) cs ds) :
    (ofClauses cs).toClause.Alike ρ (ofClauses ds).toClause := by
  have key : ∀ {s t : Statement}, Alike ρ s t → Alike ρ (cs.foldl attach s) (ds.foldl attach t) := by
    induction h with
    | nil => exact fun hst => hst
    | cons hcd _ ih => exact fun hst => ih (hst.attach hcd)
  have hall : Alike ρ (ofClauses cs) (ofClauses ds) := key ⟨rfl, .empty ρ⟩
  refine ⟨?_, hall.table⟩
  unfold toClause
  rw [Fragment.skeleton_join, Fragment.skeleton_join, hall.skeletons]

end Statement

end GraphQuery
