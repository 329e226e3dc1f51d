import GraphQuery.Proofs.Formula.Grammar

/-!
# A parser for boolean text

The parser keeps what waits for its right operand on a stack and works it off as soon as a
connective that binds no tighter, a bracket or the end is met. `parse_eq_some_iff`: it accepts
exactly what the grammar derives, so boolean text has at most one reading.
-/

namespace GraphQuery

/-- What waits for an operand: a negation, the left half of a chain, or an open bracket. -/
inductive Frame
  | not
  | join (c : Connective) (f : Formula)
  | bracket

/-- Where the parser stands: before an operand, or behind one. -/
inductive Position
  | before (waiting : List Frame)
  | behind (waiting : List Frame) (f : Formula)

namespace Formula

/-- Works off what binds at least as tightly as a level. -/
def close (level : Nat) : List Frame → Formula → List Frame × Formula
  | .not :: st, f => close level st (.not f)
  | .join c g :: st, f =>
    if level ≤ c.precedence.rank then close level st (.join c g f) else (.join c g :: st, f)
  | st, f => (st, f)

def step : Position → Token → Option Position
  | .before st, .test i => some (.behind st (.test i))
  | .before st, .not => some (.before (.not :: st))
  | .before st, .left => some (.before (.bracket :: st))
  | .behind st f, .connective c =>
    let (st, g) := close c.precedence.rank st f
    some (.before (.join c g :: st))
  | .behind st f, .right =>
    match close 0 st f with
    | (.bracket :: st, g) => some (.behind st g)
    | _ => none
  | _, _ => none

def run : Position → List Token → Option Position
  | s, [] => some s
  | s, t :: ts => (step s t).bind fun s => run s ts

def finish : Position → Option Formula
  | .behind st f =>
    match close 0 st f with
    | ([], g) => some g
    | _ => none
  | .before _ => none

def parse (ts : List Token) : Option Formula :=
  (run (.before []) ts).bind finish

theorem run_append (s : Position) (ts us : List Token) :
    run s (ts ++ us) = (run s ts).bind fun s => run s us := by
  induction ts generalizing s with
  | nil => rfl
  | cons t ts ih =>
    rw [List.cons_append, run, run]
    cases step s t with
    | none => rfl
    | some s => exact ih s

def Rests (level : Nat) (st : List Frame) : Prop :=
  ∀ f, close level st f = (st, f)

theorem rests_join {level : Nat} {c : Connective} (f : Formula) (st : List Frame)
    (h : c.precedence.rank < level) : Rests level (.join c f :: st) := by
  intro g
  rw [close, if_neg (by omega)]

theorem rests_bracket (level : Nat) (st : List Frame) : Rests level (.bracket :: st) :=
  fun _ => rfl

theorem rests_nil (level : Nat) : Rests level [] := fun _ => rfl

/-! ## Whatever the grammar derives is accepted -/

/-- Reading an operand leaves the stack with that operand behind it, up to work that the parser
has put off. -/
theorem run_of_reads {p : Precedence} {ts : List Token} {f : Formula} (h : Reads p ts f) :
    ∀ st, (∀ c : Connective, p.rank ≤ c.precedence.rank → Rests c.precedence.rank st) →
      ∃ st' f', run (.before st) ts = some (.behind st' f') ∧
        ∀ level ≤ p.rank, close level st' f' = close level st f := by
  induction h with
  | test i => intro st _; exact ⟨st, .test i, rfl, fun _ _ => rfl⟩
  | not _ ih =>
    intro st _
    obtain ⟨st', f', hrun, hclose⟩ := ih (.not :: st) fun c hc =>
      absurd c.rank_lt_not (Nat.not_lt.mpr hc)
    exact ⟨st', f', hrun, hclose⟩
  | @brackets ts f _ ih =>
    intro st _
    obtain ⟨st', f', hrun, hclose⟩ := ih (.bracket :: st) fun c _ => rests_bracket _ st
    refine ⟨st, f, ?_, fun _ _ => rfl⟩
    have hright : step (.behind st' f') .right = some (.behind st f) := by
      simp only [step, hclose 0 (Nat.zero_le _), rests_bracket 0 st f]
    show run (.before (.bracket :: st)) (ts ++ [.right]) = _
    simp only [run_append, hrun, Option.bind_some, run, hright]
  | @join c ts us f g _ _ ihf ihg =>
    intro st hst
    obtain ⟨st₁, f₁, hrun₁, hclose₁⟩ := ihf st hst
    have hwork : step (.behind st₁ f₁) (.connective c) = some (.before (.join c f :: st)) := by
      simp only [step, hclose₁ _ (Nat.le_refl _), hst c (Nat.le_refl _) f]
    obtain ⟨st₂, g₂, hrun₂, hclose₂⟩ := ihg (.join c f :: st) fun d hd =>
      rests_join f st (by rw [Connective.rank_tighter] at hd; omega)
    refine ⟨st₂, g₂, ?_, fun level hlevel => ?_⟩
    · simp only [run_append, hrun₁, Option.bind_some, run, hwork, hrun₂]
    · rw [hclose₂ level (by rw [Connective.rank_tighter]; omega), close, if_pos hlevel]
  | weaken _ hq ih =>
    intro st hst
    obtain ⟨st', f', hrun, hclose⟩ := ih st fun c hc => hst c (Nat.le_trans hq hc)
    exact ⟨st', f', hrun, fun level hlevel => hclose level (Nat.le_trans hlevel hq)⟩

theorem parse_of_reads {ts : List Token} {f : Formula} (h : Reads .none ts f) :
    parse ts = some f := by
  obtain ⟨st, f', hrun, hclose⟩ := run_of_reads h [] fun c _ => rests_nil _
  have hend : close 0 st f' = ([], f) := hclose 0 (Nat.zero_le _)
  simp only [parse, hrun, Option.bind_some, finish, hend]

/-! ## Whatever is accepted is derived -/

/-- The tokens that have led to a stack. -/
inductive Leads : List Token → List Frame → Prop
  | nil : Leads [] []
  | not {us : List Token} {st : List Frame} : Leads us st → Leads (us ++ [.not]) (.not :: st)
  | bracket {us : List Token} {st : List Frame} :
      Leads us st → Leads (us ++ [.left]) (.bracket :: st)
  | join {us ts : List Token} {st : List Frame} {c : Connective} {f : Formula} :
      Leads us st → Rests c.precedence.rank st → Reads c.precedence ts f →
      Leads (us ++ (ts ++ [.connective c])) (.join c f :: st)

inductive Arrives : List Token → Position → Prop
  | before {us : List Token} {st : List Frame} : Leads us st → Arrives us (.before st)
  | behind {us ts : List Token} {st : List Frame} {f : Formula} :
      Leads us st → Reads .not ts f → Arrives (us ++ ts) (.behind st f)

theorem length_close_le (level : Nat) (st : List Frame) :
    ∀ f, (close level st f).1.length ≤ st.length := by
  induction st with
  | nil => intro f; exact Nat.le_refl _
  | cons x st ih =>
    intro f
    cases x with
    | not => exact Nat.le_succ_of_le (ih _)
    | bracket => exact Nat.le_refl _
    | join c g =>
      rw [close]
      split
      · exact Nat.le_succ_of_le (ih _)
      · exact Nat.le_refl _

theorem not_rests_not (level : Nat) (st : List Frame) : ¬ Rests level (.not :: st) := by
  intro h
  have hlen := length_close_le level st (.not (.test 0))
  have heq : close level st (.not (.test 0)) = (.not :: st, .test 0) := h (.test 0)
  rw [heq] at hlen
  exact absurd hlen (by simp)

theorem lt_of_rests_join {level : Nat} {c : Connective} {f : Formula} {st : List Frame}
    (h : Rests level (.join c f :: st)) : c.precedence.rank < level := by
  rcases Nat.lt_or_ge c.precedence.rank level with hlt | hge
  · exact hlt
  · have heq := h (.test 0)
    rw [close, if_pos hge] at heq
    have hlen := length_close_le level st (.join c f (.test 0))
    rw [heq] at hlen
    exact absurd hlen (by simp)

theorem rests_close (level : Nat) (st : List Frame) : ∀ f, Rests level (close level st f).1 := by
  induction st with
  | nil => intro f; exact rests_nil level
  | cons x st ih =>
    intro f
    cases x with
    | not => exact ih _
    | bracket => exact rests_bracket level st
    | join c g =>
      rw [close]
      split
      · exact ih _
      · exact rests_join g st (by omega)

/-- Working off the stack only regroups the tokens that have been read. -/
theorem reads_close (level : Nat) {st : List Frame} :
    ∀ {us ts : List Token} {f : Formula} {q : Precedence}, Leads us st → Reads q ts f →
      level ≤ q.rank → q = .not ∨ Rests q.rank st →
      ∃ us' ts' q', us ++ ts = us' ++ ts' ∧ Leads us' (close level st f).1 ∧
        Reads q' ts' (close level st f).2 ∧ level ≤ q'.rank := by
  induction st with
  | nil => intro us ts f q hl hr hq _; exact ⟨us, ts, q, rfl, hl, hr, hq⟩
  | cons x st ih =>
    intro us ts f q hl hr hq hst
    cases hl with
    | bracket hl => exact ⟨_, ts, q, rfl, hl.bracket, hr, hq⟩
    | @not us _ hl =>
      obtain rfl := hst.resolve_right (not_rests_not _ _)
      obtain ⟨us', ts', q', heq, h⟩ := ih hl hr.not hq (Or.inl rfl)
      exact ⟨us', ts', q', by rw [← heq]; simp, h⟩
    | @join us ts₀ _ c g hl hrests hg =>
      by_cases hc : level ≤ c.precedence.rank
      · have htight : Reads c.tighter ts f := by
          refine hr.weaken ?_
          rw [Connective.rank_tighter]
          rcases hst with rfl | hst
          · exact c.rank_lt_not
          · exact lt_of_rests_join hst
        obtain ⟨us', ts', q', heq, h⟩ := ih hl (hg.join htight) hc (Or.inr hrests)
        refine ⟨us', ts', q', by rw [← heq]; simp, ?_⟩
        rw [close, if_pos hc]
        exact h
      · rw [close, if_neg hc]
        exact ⟨_, ts, q, rfl, hl.join hrests hg, hr, hq⟩

theorem arrives_step {us : List Token} {s s' : Position} {t : Token} (h : Arrives us s)
    (hs : step s t = some s') : Arrives (us ++ [t]) s' := by
  cases h with
  | @before us st hl =>
    cases t with
    | test i => cases hs; exact .behind hl (.test i)
    | not => cases hs; exact .before hl.not
    | left => cases hs; exact .before hl.bracket
    | connective c => cases hs
    | right => cases hs
  | @behind us ts st f hl hr =>
    cases t with
    | connective c =>
      cases hs
      obtain ⟨us', ts', q, heq, hl', hr', hq⟩ := reads_close _ hl hr
        (Nat.le_of_lt c.rank_lt_not) (Or.inl rfl)
      rw [heq, List.append_assoc]
      exact .before (hl'.join (rests_close _ st f) (hr'.weaken hq))
    | right =>
      obtain ⟨us', ts', q, heq, hl', hr', hq⟩ := reads_close 0 hl hr
        (Nat.zero_le _) (Or.inl rfl)
      simp only [step] at hs
      split at hs
      · rename_i st' g hclose
        cases hs
        rw [hclose] at hl' hr'
        cases hl' with
        | @bracket us₀ _ hl₀ =>
          have hback : us ++ ts ++ [Token.right] = us₀ ++ (.left :: (ts' ++ [.right])) := by
            rw [heq]; simp
          rw [hback]
          exact .behind hl₀ (.brackets (hr'.weaken (Nat.zero_le _)))
      · cases hs
    | test i => cases hs
    | not => cases hs
    | left => cases hs

theorem arrives_run {ts : List Token} :
    ∀ {us : List Token} {s s' : Position}, Arrives us s → run s ts = some s' →
      Arrives (us ++ ts) s' := by
  induction ts with
  | nil => intro us s s' h hs; cases hs; simpa using h
  | cons t ts ih =>
    intro us s s' h hs
    obtain ⟨s₁, h₁, h₂⟩ := Option.bind_eq_some_iff.mp hs
    simpa using ih (arrives_step h h₁) h₂

theorem reads_of_parse {ts : List Token} {f : Formula} (h : parse ts = some f) :
    Reads .none ts f := by
  obtain ⟨s, hrun, hfin⟩ := Option.bind_eq_some_iff.mp h
  have harr : Arrives ([] ++ ts) s := arrives_run (.before .nil) hrun
  rw [List.nil_append] at harr
  cases harr with
  | before _ => cases hfin
  | @behind us ts st g hl hr =>
    obtain ⟨us', ts', q, heq, hl', hr', hq⟩ := reads_close 0 hl hr
      (Nat.zero_le _) (Or.inl rfl)
    simp only [finish] at hfin
    split at hfin
    · rename_i g' hclose
      cases hfin
      rw [hclose] at hl' hr'
      cases hl' with
      | nil => rw [heq]; exact hr'.weaken (Nat.zero_le _)
    · cases hfin

/-- **The parser decides the grammar.** -/
theorem parse_eq_some_iff {ts : List Token} {f : Formula} :
    parse ts = some f ↔ Reads .none ts f :=
  ⟨reads_of_parse, parse_of_reads⟩

end Formula

end GraphQuery
