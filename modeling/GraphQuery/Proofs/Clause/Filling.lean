import GraphQuery.Clause
import GraphQuery.Proofs.Fragment.Marks
import GraphQuery.Proofs.Parameter.Ledger

/-!
# Clauses with their values filled in

`Clause.fill` puts the values in the table of a clause in place of its handles. A clause that
mentions the parameters of its table, with a ledger behind the table, can be filled in from the
ledger; renaming does not matter to it, and joined texts are filled in one by one.
-/

namespace GraphQuery

inductive Piece
  | char (c : Char)
  | value (v : Json)

def Segment.fill (t : ParameterTable) : Segment → Option (List Piece)
  | .text s => some (s.toList.map .char)
  | .param h => (t.get? h).map fun p => [.value p.value]

def Segment.pieces (ledger : List Json) : Segment → List Piece
  | .text s => s.toList.map .char
  | .param h => [.value (ledger.getD h.index .null)]

def Mark.piece (ledger : List Json) : Mark → Piece
  | .char c => .char c
  | .param h => .value (ledger.getD h.index .null)

theorem mapM_eq_some_map {α β : Type} {f : α → Option β} {g : α → β} {l : List α}
    (h : ∀ a ∈ l, f a = some (g a)) : l.mapM f = some (l.map g) := by
  induction l with
  | nil => rfl
  | cons a l ih =>
    rw [List.mapM_cons, h a (List.mem_cons_self ..), ih fun b hb => h b (List.mem_cons_of_mem _ hb)]
    rfl

namespace Fragment

/-- The text with the values of a table in place of the handles, if the table has them all. -/
def fill (f : Fragment) (t : ParameterTable) : Option (List Piece) :=
  (f.segments.mapM (Segment.fill t)).map List.flatten

/-- The text with the values of a ledger in place of the handles. -/
def pieces (ledger : List Json) (f : Fragment) : List Piece :=
  f.segments.flatMap (·.pieces ledger)

variable {ledger : List Json}

theorem fill_eq_pieces {f : Fragment} {t : ParameterTable} (ht : t.Backed ledger)
    (hf : ∀ h ∈ f.handles, h ∈ t.handles) : f.fill t = some (f.pieces ledger) := by
  have hsegments : ∀ x ∈ f.segments, x.fill t = some (x.pieces ledger) := by
    intro x hx
    cases x with
    | text s => rfl
    | param h =>
      have hmem : h ∈ f.handles := List.mem_filterMap.mpr ⟨.param h, hx, rfl⟩
      obtain ⟨p, hp, hvalue⟩ := ht.value_get? (hf h hmem)
      simp [Segment.fill, Segment.pieces, hp, hvalue]
  unfold fill pieces
  rw [mapM_eq_some_map hsegments, Option.map_some, List.flatMap_def]

theorem pieces_eq_map_marks (f : Fragment) : f.pieces ledger = f.marks.map (·.piece ledger) := by
  unfold pieces marks
  rw [List.map_flatMap]
  congr 1
  funext x
  cases x with
  | text s => simp [Segment.pieces, Segment.marks, Mark.piece]
  | param h => rfl

theorem pieces_text (s : String) : (text s).pieces ledger = s.toList.map .char := by
  rw [pieces_eq_map_marks, marks_text, List.map_map]
  rfl

theorem pieces_append (f g : Fragment) :
    (f ++ g).pieces ledger = f.pieces ledger ++ g.pieces ledger := by
  simp only [pieces_eq_map_marks, marks_append, List.map_append]

theorem pieces_join (separator : String) (fs : List Fragment) : (join separator fs).pieces ledger =
    List.intercalate (separator.toList.map .char) (fs.map (pieces ledger)) := by
  induction fs with
  | nil => rfl
  | cons f rest ih =>
    cases rest with
    | nil => simp [List.intercalate]
    | cons g rest =>
      rw [join_cons separator f (List.cons_ne_nil g rest), pieces_append, pieces_append, ih,
        pieces_text]
      simp [List.intercalate]

end Fragment

/-! ## Clauses -/

namespace Clause

def fill (c : Clause) : Option (List Piece) :=
  c.fragment.fill c.table

/-- The table of a clause has exactly the parameters that its text mentions, in that order, and
their values are those of a ledger. -/
structure Backed (ledger : List Json) (c : Clause) : Prop where
  handles : c.fragment.handles = c.table.handles
  values : c.table.Backed ledger

variable {ledger later : List Json}

theorem Backed.mono {c : Clause} (h : c.Backed ledger) (hle : ledger <+: later) : c.Backed later :=
  ⟨h.handles, h.values.mono hle⟩

theorem Backed.fill_eq {c : Clause} (h : c.Backed ledger) :
    c.fill = some (c.fragment.pieces ledger) := by
  refine Fragment.fill_eq_pieces h.values fun k hk => ?_
  rw [← h.handles]
  exact hk

theorem backed_of_stores {f : Fragment} {t : ParameterTable} {next next' : Nat}
    (h : Scope.Stores ⟨.empty, next⟩ f.handles ⟨t, next'⟩) (hnext : next = ledger.length) :
    ∃ later, ledger <+: later ∧ next' = later.length ∧ Backed later ⟨f, t⟩ := by
  obtain ⟨later, hle, hb⟩ := h.backed ⟨hnext, .empty ledger⟩
  refine ⟨later, hle, hb.next, ?_, hb.values⟩
  have hhandles := h.handles
  rw [ParameterTable.handles_empty, List.nil_append] at hhandles
  exact hhandles.symm

theorem raw_backed (ledger : List Json) (text : String) : (raw text).Backed ledger where
  handles := Fragment.handles_text text
  values := .empty ledger

end Clause

/-! ## Statements -/

namespace Statement

def ofClauses (cs : List Clause) : Statement :=
  cs.foldl attach empty

/-- What a statement writes down of clauses: the texts of those that have one. -/
def written (cs : List Clause) : List Clause :=
  cs.filter fun c => !c.fragment.isEmpty

variable {ledger : List Json}

theorem attach_backed {s : Statement} {c : Clause} (hs : s.toClause.Backed ledger)
    (hc : c.Backed ledger) : (s.attach c).toClause.Backed ledger where
  handles := by
    have hold := hs.handles
    unfold toClause at hold
    rw [Fragment.handles_join] at hold
    unfold attach toClause
    rw [Fragment.handles_join, ParameterTable.handles_merge, ← hold, ← hc.handles]
    by_cases hempty : c.fragment.isEmpty
    · rw [if_pos hempty, Fragment.isEmpty_iff.mp hempty]
      simp
    · rw [if_neg hempty]
      simp
  values := hs.values.merge hc.values

theorem foldl_attach_backed {cs : List Clause} (hcs : ∀ c ∈ cs, c.Backed ledger) :
    ∀ s : Statement, s.toClause.Backed ledger → (cs.foldl attach s).toClause.Backed ledger := by
  induction cs with
  | nil => exact fun s hs => hs
  | cons c cs ih =>
    intro s hs
    rw [List.foldl_cons]
    exact ih (fun d hd => hcs d (List.mem_cons_of_mem _ hd)) _
      (attach_backed hs (hcs c (List.mem_cons_self ..)))

theorem ofClauses_backed {cs : List Clause} (hcs : ∀ c ∈ cs, c.Backed ledger) :
    (ofClauses cs).toClause.Backed ledger :=
  foldl_attach_backed hcs empty ⟨rfl, .empty ledger⟩

theorem foldl_attach_clauses (cs : List Clause) : ∀ s : Statement,
    (cs.foldl attach s).clauses = s.clauses ++ (written cs).map (·.fragment) := by
  induction cs with
  | nil => simp [written]
  | cons c cs ih =>
    intro s
    rw [List.foldl_cons, ih]
    by_cases hempty : c.fragment.isEmpty <;> simp [attach, written, hempty]

/-- Filling in a statement is filling in its clauses, whatever its table calls their parameters. -/
theorem fill_ofClauses_of_backed {cs : List Clause} (hcs : ∀ c ∈ cs, c.Backed ledger) :
    ∃ parts, (written cs).mapM Clause.fill = some parts ∧
      (ofClauses cs).toClause.fill = some (List.intercalate [.char '\n'] parts) := by
  refine ⟨(written cs).map (·.fragment.pieces ledger), ?_, ?_⟩
  · exact mapM_eq_some_map fun c hc => (hcs c (List.mem_of_mem_filter hc)).fill_eq
  · rw [(ofClauses_backed hcs).fill_eq]
    unfold toClause ofClauses
    rw [Fragment.pieces_join, foldl_attach_clauses]
    simp [empty, Function.comp_def]

end Statement

end GraphQuery
