import GraphQuery.Proofs.Formula.Parser

/-!
# Which texts can be read

Boolean text can be read exactly when operands and connectives take turns in it and its brackets
are balanced (`parse_isSome_iff`). Both stay so when a matching pair of brackets is taken out, so
that what is left can be read again, though perhaps as something else.
-/

namespace GraphQuery

namespace Token

/-- Whether text stands behind an operand after a token, if the token may stand there at all. -/
def turn (behind : Bool) : Token → Option Bool
  | .test _ => if behind then none else some true
  | .not => if behind then none else some false
  | .left => if behind then none else some false
  | .connective _ => if behind then some false else none
  | .right => if behind then some true else none

/-- The number of brackets that are open after a token. -/
def nest (depth : Nat) : Token → Option Nat
  | .left => some (depth + 1)
  | .right =>
    match depth with
    | 0 => none
    | depth + 1 => some depth
  | _ => some depth

end Token

def TakesTurns (ts : List Token) : Prop :=
  ts.foldlM Token.turn false = some true

def Balanced (ts : List Token) : Prop :=
  ts.foldlM Token.nest 0 = some 0

instance (ts : List Token) : Decidable (Balanced ts) :=
  inferInstanceAs (Decidable (_ = _))

/-! ## Taking a pair of brackets out -/

section
variable {σ : Type} {f : σ → Token → Option σ} {a c : σ}

theorem foldlM_cons_eq_some_iff {t : Token} {ts : List Token} :
    (t :: ts).foldlM f a = some c ↔ ∃ b, f a t = some b ∧ ts.foldlM f b = some c := by
  rw [List.foldlM_cons, Option.bind_eq_bind, Option.bind_eq_some_iff]

theorem foldlM_append_eq_some_iff {ts us : List Token} :
    (ts ++ us).foldlM f a = some c ↔ ∃ b, ts.foldlM f a = some b ∧ us.foldlM f b = some c := by
  rw [List.foldlM_append, Option.bind_eq_bind, Option.bind_eq_some_iff]

end

theorem Token.nest_add {t : Token} {d e : Nat} (h : t.nest d = some e) (n : Nat) :
    t.nest (d + n) = some (e + n) := by
  cases t with
  | left => cases h; rw [nest, Nat.add_right_comm]
  | right =>
    cases d with
    | zero => cases h
    | succ d => cases h; rw [Nat.add_right_comm]; rfl
  | test i => cases h; rfl
  | connective c => cases h; rfl
  | not => cases h; rfl

theorem foldlM_nest_add {ts : List Token} {d e : Nat} (h : ts.foldlM Token.nest d = some e)
    (n : Nat) : ts.foldlM Token.nest (d + n) = some (e + n) := by
  induction ts generalizing d with
  | nil => cases h; rfl
  | cons t ts ih =>
    obtain ⟨d₁, h₁, h₂⟩ := foldlM_cons_eq_some_iff.mp h
    exact foldlM_cons_eq_some_iff.mpr ⟨d₁ + n, Token.nest_add h₁ n, ih h₂⟩

section
variable {xs ys zs : List Token}

theorem Balanced.foldlM_nest (h : Balanced ys) (d : Nat) : ys.foldlM Token.nest d = some d := by
  have := foldlM_nest_add h d
  rwa [Nat.zero_add] at this

theorem Balanced.unwrap (h : Balanced (xs ++ .left :: (ys ++ .right :: zs))) (hys : Balanced ys) :
    Balanced (xs ++ (ys ++ zs)) := by
  obtain ⟨d, hxs, h⟩ := foldlM_append_eq_some_iff.mp h
  obtain ⟨_, hleft, h⟩ := foldlM_cons_eq_some_iff.mp h
  cases hleft
  obtain ⟨_, hin, h⟩ := foldlM_append_eq_some_iff.mp h
  cases (hys.foldlM_nest (d + 1)).symm.trans hin
  obtain ⟨_, hright, hzs⟩ := foldlM_cons_eq_some_iff.mp h
  cases hright
  exact foldlM_append_eq_some_iff.mpr
    ⟨d, hxs, foldlM_append_eq_some_iff.mpr ⟨d, hys.foldlM_nest d, hzs⟩⟩

theorem TakesTurns.unwrap (h : TakesTurns (xs ++ .left :: (ys ++ .right :: zs))) :
    TakesTurns (xs ++ (ys ++ zs)) := by
  obtain ⟨b, hxs, h⟩ := foldlM_append_eq_some_iff.mp h
  obtain ⟨b₁, hleft, h⟩ := foldlM_cons_eq_some_iff.mp h
  obtain ⟨b₂, hys, h⟩ := foldlM_append_eq_some_iff.mp h
  obtain ⟨b₃, hright, hzs⟩ := foldlM_cons_eq_some_iff.mp h
  -- a left bracket stands before an operand and a right one behind it, as what they enclose does
  obtain ⟨rfl, rfl⟩ : b = false ∧ b₁ = false := by cases b <;> cases hleft; exact ⟨rfl, rfl⟩
  obtain ⟨rfl, rfl⟩ : b₂ = true ∧ b₃ = true := by cases b₂ <;> cases hright; exact ⟨rfl, rfl⟩
  exact foldlM_append_eq_some_iff.mpr
    ⟨false, hxs, foldlM_append_eq_some_iff.mpr ⟨true, hys, hzs⟩⟩

end

/-! ## What the parser accepts -/

def Frame.depth : List Frame → Nat
  | [] => 0
  | .bracket :: st => depth st + 1
  | _ :: st => depth st

namespace Position

def isBehind : Position → Bool
  | .before _ => false
  | .behind _ _ => true

def depth : Position → Nat
  | .before st => Frame.depth st
  | .behind st _ => Frame.depth st

end Position

namespace Formula

theorem depth_close (level : Nat) (st : List Frame) :
    ∀ f, Frame.depth (close level st f).1 = Frame.depth st := by
  induction st with
  | nil => intro _; rfl
  | cons x st ih =>
    intro f
    cases x with
    | not => exact ih _
    | bracket => rfl
    | join c g =>
      rw [close]
      split
      · exact ih _
      · rfl

/-- Only an open bracket stops the work at the end. -/
theorem close_zero (st : List Frame) (f : Formula) :
    (∃ g, close 0 st f = ([], g)) ∨ ∃ st' g, close 0 st f = (.bracket :: st', g) := by
  have hrests := rests_close 0 st f
  rcases hclose : close 0 st f with ⟨_ | ⟨x, st'⟩, g⟩
  · exact Or.inl ⟨g, rfl⟩
  · rw [hclose] at hrests
    cases x with
    | not => exact absurd hrests (not_rests_not 0 st')
    | join c h => exact absurd (lt_of_rests_join hrests) (Nat.not_lt_zero _)
    | bracket => exact Or.inr ⟨st', g, rfl⟩

/-- A step of the parser keeps track of turns and brackets. -/
theorem exists_step_iff {s : Position} {t : Token} {b : Bool} {d : Nat} :
    (∃ s', step s t = some s' ∧ s'.isBehind = b ∧ s'.depth = d) ↔
      t.turn s.isBehind = some b ∧ t.nest s.depth = some d := by
  cases s with
  | before st =>
    cases t <;>
      simp [step, Token.turn, Token.nest, Position.isBehind, Position.depth, Frame.depth]
  | behind st f =>
    cases t with
    | connective c =>
      simp [step, Token.turn, Token.nest, Position.isBehind, Position.depth, Frame.depth,
        depth_close]
    | right =>
      have hdepth := depth_close 0 st f
      rcases close_zero st f with ⟨g, hclose⟩ | ⟨st', g, hclose⟩ <;> rw [hclose] at hdepth
      · simp [step, hclose, Token.nest, Position.depth, ← hdepth, Frame.depth]
      · simp [step, hclose, Token.turn, Token.nest, Position.isBehind, Position.depth, ← hdepth,
          Frame.depth]
    | test i => simp [step, Token.turn, Position.isBehind]
    | not => simp [step, Token.turn, Position.isBehind]
    | left => simp [step, Token.turn, Position.isBehind]

theorem exists_run_iff {ts : List Token} : ∀ {s : Position} {b : Bool} {d : Nat},
    (∃ s', run s ts = some s' ∧ s'.isBehind = b ∧ s'.depth = d) ↔
      ts.foldlM Token.turn s.isBehind = some b ∧ ts.foldlM Token.nest s.depth = some d := by
  induction ts with
  | nil => intro s b d; simp [run]
  | cons t ts ih =>
    intro s b d
    rw [foldlM_cons_eq_some_iff, foldlM_cons_eq_some_iff]
    constructor
    · rintro ⟨s', hrun, hs'⟩
      obtain ⟨s₁, hstep, hrest⟩ := Option.bind_eq_some_iff.mp hrun
      obtain ⟨hturn, hnest⟩ := exists_step_iff.mp ⟨s₁, hstep, rfl, rfl⟩
      obtain ⟨hturns, hnests⟩ := ih.mp ⟨s', hrest, hs'⟩
      exact ⟨⟨_, hturn, hturns⟩, ⟨_, hnest, hnests⟩⟩
    · rintro ⟨⟨b₁, hturn, hturns⟩, ⟨d₁, hnest, hnests⟩⟩
      obtain ⟨s₁, hstep, rfl, rfl⟩ := exists_step_iff.mpr ⟨hturn, hnest⟩
      obtain ⟨s', hrest, hs'⟩ := ih.mpr ⟨hturns, hnests⟩
      exact ⟨s', Option.bind_eq_some_iff.mpr ⟨s₁, hstep, hrest⟩, hs'⟩

theorem finish_isSome_iff {s : Position} :
    (finish s).isSome = true ↔ s.isBehind = true ∧ s.depth = 0 := by
  cases s with
  | before st => simp [finish, Position.isBehind]
  | behind st f =>
    have hdepth := depth_close 0 st f
    rcases close_zero st f with ⟨g, hclose⟩ | ⟨st', g, hclose⟩ <;> rw [hclose] at hdepth <;>
      simp [finish, hclose, Position.isBehind, Position.depth, ← hdepth, Frame.depth]

/-- **What can be read** is balanced text in which operands and connectives take turns. -/
theorem parse_isSome_iff {ts : List Token} :
    (parse ts).isSome = true ↔ TakesTurns ts ∧ Balanced ts := by
  have hrun := @exists_run_iff ts (.before []) true 0
  rw [TakesTurns, Balanced]
  refine Iff.trans ?_ hrun
  rw [parse, Option.isSome_bind]
  cases run (.before []) ts with
  | none => simp
  | some s => simp [finish_isSome_iff]

theorem parse_unwrap {xs ys zs : List Token} {f : Formula} (hys : Balanced ys)
    (h : parse (xs ++ .left :: (ys ++ .right :: zs)) = some f) :
    ∃ g, parse (xs ++ (ys ++ zs)) = some g := by
  obtain ⟨hturns, hnests⟩ := parse_isSome_iff.mp (Option.isSome_of_eq_some h)
  exact Option.isSome_iff_exists.mp (parse_isSome_iff.mpr ⟨hturns.unwrap, hnests.unwrap hys⟩)

end Formula

end GraphQuery
