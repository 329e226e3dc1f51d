import GraphQuery.Proofs.Naming.Choice
import GraphQuery.Proofs.Parameter.Requests

/-!
# Requests of different stems

Which name a request gets depends on the set of existing names that belong to its stem. A name that
is given to a request of another stem does not belong to it, if the stem does not end with a digit
(`stemOf_of_belongs`); a stem does so only where there are too many digits for a suffix. So requests
of different stems do not notice one another: their order does not matter, and those of one stem are
served as if they were alone (`allocate_apart`).
-/

namespace GraphQuery

namespace Naming

/-! ## Stems -/

/-- The stem at which a request is split. -/
def stemOf (requested : String) : List Char :=
  (splitSuffix (canonical requested.toList)).1

/-- The digits at the end of the canonical form, if it has any, denote a number of 64 bits. -/
def FitsSuffix (requested : String) : Prop :=
  Nat.ofDigitChars 10 (trailingDigits (canonical requested.toList)) 0 ≤ maxSuffix

/-- The name is the stem, or the stem with a suffix. -/
def Belongs (stem : List Char) (name : String) : Prop :=
  (takenSuffix? stem name.toList).isSome

instance (stem : List Char) (name : String) : Decidable (Belongs stem name) :=
  inferInstanceAs (Decidable ((takenSuffix? stem name.toList).isSome = true))

theorem FitsSuffix.endsPlain {requested : String} (h : FitsSuffix requested) :
    EndsPlain (stemOf requested) := by
  unfold FitsSuffix at h
  unfold stemOf
  generalize canonical requested.toList = name at h
  rcases splitSuffix_cases name with ⟨hnone, hsplit⟩ | ⟨n, -, hsplit⟩
  · rw [hsplit, endsPlain_iff]
    -- digits that fit are no suffix only if there are none
    refine Classical.byContradiction fun hne => ?_
    rw [suffix?, if_pos ⟨hne, all_trailingDigits name, h⟩] at hnone
    cases hnone
  · rw [hsplit]
    exact endsPlain_withoutDigits name

theorem withSuffix_eq_append (stem : List Char) (n : Nat) :
    ∃ digits : List Char, digits.all Char.isDigit ∧ withSuffix stem n = stem ++ digits := by
  unfold withSuffix
  split
  · exact ⟨[], rfl, (List.append_nil stem).symm⟩
  · exact ⟨_, all_toDigits n, rfl⟩

theorem Belongs.exists_append {stem : List Char} {name : String} (h : Belongs stem name) :
    ∃ digits, digits.all Char.isDigit ∧ stem ++ digits = name.toList ∧
      (digits ≠ [] → suffix? digits ≠ none) := by
  obtain ⟨n, htaken⟩ := Option.isSome_iff_exists.mp h
  obtain ⟨hcarries, hle⟩ := takenSuffix?_eq_some_iff.mp htaken
  generalize name.toList = text at hcarries
  cases hcarries with
  | bare => exact ⟨[], rfl, List.append_nil stem, fun hne => absurd rfl hne⟩
  | @numbered digits _ hdigits =>
    refine ⟨digits, hdigits.all, rfl, fun _ hnone => ?_⟩
    rw [suffix?_eq_some_iff.mpr ⟨hdigits, hle⟩] at hnone
    cases hnone

/-- A name that is given belongs to no stem but that of its request. -/
theorem stemOf_of_belongs {stem : List Char} (hplain : EndsPlain stem) {requested : String}
    {existing : List String} (h : Belongs stem (uniqueName requested existing)) :
    stemOf requested = stem := by
  obtain ⟨digits, hdigits, happ, hfits⟩ := h.exists_append
  obtain ⟨more, hmore, hname⟩ : ∃ more : List Char, more.all Char.isDigit ∧
      (uniqueName requested existing).toList = stemOf requested ++ more := by
    unfold uniqueName
    rw [String.toList_ofList]
    exact withSuffix_eq_append _ _
  obtain ⟨htrailing, hwithout⟩ := trailingDigits_of_append happ hplain hdigits
  rw [hname, trailingDigits_append _ hmore] at htrailing
  rw [hname, withoutDigits_append _ hmore] at hwithout
  have hbare : suffix? (trailingDigits (stemOf requested)) = none :=
    (splitSuffix_of_bare (bare_stem _)).1
  by_cases hnil : trailingDigits (stemOf requested) = []
  · rw [withoutDigits_of_trailingDigits hnil] at hwithout
    exact hwithout
  · -- digits that are too many to be split from the stem are none of its suffixes either
    have hnone : suffix? (trailingDigits (stemOf requested) ++ more) = none :=
      suffix?_append_of_none hnil (all_trailingDigits _) hbare
    rw [htrailing] at hnone
    refine absurd hnone (hfits ?_)
    rw [← htrailing]
    exact List.append_ne_nil_of_left_ne_nil hnil more

/-! ## What the choice of a name depends on -/

/-- Two lists have the same names that belong to a stem, in whatever order and however often. -/
def AgreeOn (stem : List Char) (existing existing' : List String) : Prop :=
  ∀ name, Belongs stem name → (name ∈ existing ↔ name ∈ existing')

theorem AgreeOn.inUse_iff {stem : List Char} {existing existing' : List String}
    (h : AgreeOn stem existing existing') (n : Nat) :
    InUse stem existing n ↔ InUse stem existing' n := by
  refine and_congr_right fun hle => exists_congr fun name => and_congr_left fun hcarries => ?_
  have htaken := takenSuffix?_eq_some_iff.mpr ⟨hcarries, hle⟩
  exact h name (Option.isSome_iff_exists.mpr ⟨n, htaken⟩)

/-- A request does not notice names of other stems, nor order and repetition among those of its
own. -/
theorem uniqueName_congr {requested : String} {existing existing' : List String}
    (h : AgreeOn (stemOf requested) existing existing') :
    uniqueName requested existing = uniqueName requested existing' := by
  obtain ⟨whole, stem, suffix, n, hcanonical, hsplits, hpicks, hname⟩ :=
    uniqueName_eq_iff_chosen.mp (Eq.refl (uniqueName requested existing'))
  have hstem : stemOf requested = stem := by
    rw [stemOf, canonical_eq_iff.mpr hcanonical, splitSuffix_eq_iff.mpr hsplits]
  rw [hstem] at h
  have hinUse : InUse stem existing = InUse stem existing' :=
    funext fun n => propext (h.inUse_iff n)
  exact uniqueName_eq_iff_chosen.mpr
    ⟨whole, stem, suffix, n, hcanonical, hsplits, hinUse ▸ hpicks, hname⟩

/-- A name that was given to a request of another stem makes no difference. -/
theorem agreeOn_append_uniqueName {stem : List Char} (hplain : EndsPlain stem) {requested : String}
    (h : stemOf requested ≠ stem) {existing existing' : List String}
    (hagree : AgreeOn stem existing existing') :
    AgreeOn stem (existing ++ [uniqueName requested existing]) existing' := by
  intro name hname
  rw [List.mem_append, List.mem_singleton, hagree name hname, or_iff_left]
  rintro rfl
  exact h (stemOf_of_belongs hplain hname)

theorem uniqueName_append_of_apart {a b : String} (hb : FitsSuffix b) (h : stemOf a ≠ stemOf b)
    (existing : List String) :
    uniqueName b (existing ++ [uniqueName a existing]) = uniqueName b existing :=
  uniqueName_congr (agreeOn_append_uniqueName hb.endsPlain h fun _ _ => Iff.rfl)

/-- Of the names for several requests, those for the requests of one stem. -/
def namesOf (stem : List Char) (requests names : List String) : List String :=
  ((requests.zip names).filter fun r => stemOf r.1 = stem).map (·.2)

/-- **The requests of one stem are served as if they were alone.** -/
theorem namesOf_uniqueNames {stem : List Char} (hplain : EndsPlain stem)
    {requests : List String} : ∀ {existing existing' : List String},
    AgreeOn stem existing existing' →
      namesOf stem requests (uniqueNames existing requests) =
        uniqueNames existing' (requests.filter fun r => stemOf r = stem) := by
  induction requests with
  | nil => exact fun _ => rfl
  | cons r rs ih =>
    intro existing existing' h
    unfold namesOf at ih ⊢
    rw [uniqueNames, List.zip_cons_cons]
    by_cases hr : stemOf r = stem
    · have hsame : uniqueName r existing = uniqueName r existing' := uniqueName_congr (hr ▸ h)
      have hgrown : AgreeOn stem (existing ++ [uniqueName r existing])
          (existing' ++ [uniqueName r existing]) := fun name hname => by
        rw [List.mem_append, List.mem_append, h name hname]
      rw [List.filter_cons_of_pos (by simpa using hr), List.filter_cons_of_pos (by simpa using hr),
        List.map_cons, uniqueNames, ih hgrown, hsame]
    · rw [List.filter_cons_of_neg (by simpa using hr), List.filter_cons_of_neg (by simpa using hr)]
      exact ih (agreeOn_append_uniqueName hplain hr h)

end Naming

namespace Scope

open Naming

theorem names_allocate (s : Scope) (v : Json) (requested : Option String) :
    (s.allocate v requested).2.table.names =
      s.table.names ++ [uniqueName (requested.getD defaultParameterName) s.table.names] := by
  unfold allocate
  exact ParameterTable.names_adopt ..

/-- The names of the parameters that are stored for requests of one stem. -/
def namesFor (stem : List Char) (requests : List (String × Json)) (s : Scope) : List String :=
  namesOf stem (requests.map (·.1))
    ((storeAll requests s).2.table.names.drop s.table.names.length)

theorem namesFor_eq (stem : List Char) (requests : List (String × Json)) (s : Scope) :
    namesFor stem requests s =
      namesOf stem (requests.map (·.1)) (uniqueNames s.table.names (requests.map (·.1))) := by
  obtain ⟨stored, hentries, -, -, hnames⟩ := exists_entries_storeAll requests s
  rw [namesFor, ← hnames, ParameterTable.names, ParameterTable.names, hentries, List.map_append,
    List.drop_left]

/-- **Stems do not interfere.** The name that a request gets belongs to no other stem, unless that
one ends with a digit, and depends on nothing but which names that belong to its own stem there are.
Two requests of different stems, whose digits fit, get the same names in either order; and whatever
requests are served, those of one stem get the names that they get from a table with the same names
of that stem, among any other requests of other stems. -/
theorem allocate_apart :
    (∀ (requested : Option String) (v : Json) (s : Scope), ∃ name,
      (s.allocate v requested).2.table.names = s.table.names ++ [name] ∧
      (∀ stem, EndsPlain stem → Belongs stem name →
        stemOf (requested.getD defaultParameterName) = stem) ∧
      ∀ s' : Scope,
        AgreeOn (stemOf (requested.getD defaultParameterName)) s.table.names s'.table.names →
        (s'.allocate v requested).2.table.names = s'.table.names ++ [name]) ∧
    (∀ a b : Option String, FitsSuffix (a.getD defaultParameterName) →
      FitsSuffix (b.getD defaultParameterName) →
      stemOf (a.getD defaultParameterName) ≠ stemOf (b.getD defaultParameterName) →
      ∀ (v w : Json) (s : Scope), ∃ m n,
        ((s.allocate v a).2.allocate w b).2.table.names = s.table.names ++ [m, n] ∧
        ((s.allocate w b).2.allocate v a).2.table.names = s.table.names ++ [n, m]) ∧
    ∀ requested, FitsSuffix requested → ∀ (rs rs' : List (String × Json)) (s s' : Scope),
      ((rs.map (·.1)).filter fun r => stemOf r = stemOf requested) =
        ((rs'.map (·.1)).filter fun r => stemOf r = stemOf requested) →
      AgreeOn (stemOf requested) s.table.names s'.table.names →
      namesFor (stemOf requested) rs s = namesFor (stemOf requested) rs' s' := by
  refine ⟨?_, ?_, ?_⟩
  · intro requested v s
    refine ⟨_, names_allocate s v requested, fun stem hplain => stemOf_of_belongs hplain,
      fun s' h => ?_⟩
    rw [names_allocate, uniqueName_congr h]
  · intro a b ha hb hne v w s
    refine ⟨uniqueName (a.getD defaultParameterName) s.table.names,
      uniqueName (b.getD defaultParameterName) s.table.names, ?_, ?_⟩
    · rw [names_allocate, names_allocate, uniqueName_append_of_apart hb hne, List.append_assoc]
      rfl
    · rw [names_allocate, names_allocate, uniqueName_append_of_apart ha hne.symm,
        List.append_assoc]
      rfl
  · intro requested hfits rs rs' s s' hrequests hnames
    rw [namesFor_eq, namesFor_eq, namesOf_uniqueNames hfits.endsPlain hnames, hrequests,
      namesOf_uniqueNames hfits.endsPlain fun _ _ => Iff.rfl]

/-- Two stems, one of which is the beginning of the other, and digits that are no suffix. -/
def nested : Scope where
  table := ⟨[⟨⟨1⟩, "name", .null⟩, ⟨⟨2⟩, "nameX3", .null⟩, ⟨⟨3⟩, "name007", .null⟩,
    ⟨⟨4⟩, "name99999999999999999999", .null⟩]⟩
  next := 5

/-- The names of the `nested` scope that belong to one of the stems, in another order. -/
def sparse : Scope where
  table := ⟨[⟨⟨1⟩, "name007", .null⟩, ⟨⟨2⟩, "name", .null⟩]⟩
  next := 3

theorem agreeOn_nested_sparse : AgreeOn "name".toList nested.table.names sparse.table.names := by
  have hboth : ∀ name ∈ nested.table.names ++ sparse.table.names, Belongs "name".toList name →
      name ∈ nested.table.names ∧ name ∈ sparse.table.names := by decide +kernel
  intro name hname
  exact ⟨fun h => (hboth name (List.mem_append_left _ h) hname).2,
    fun h => (hboth name (List.mem_append_right _ h) hname).1⟩

theorem allocate_apart_nested :
    (FitsSuffix "name" ∧ FitsSuffix "name_x_3" ∧ stemOf "name" ≠ stemOf "name_x_3") ∧
    (∃ name, (nested.allocate .null (some "Name 7")).2.table.names = nested.table.names ++ [name] ∧
      (sparse.allocate .null (some "Name 7")).2.table.names = sparse.table.names ++ [name]) ∧
    (∃ m n, ((nested.allocate .null (some "name")).2.allocate .null (some "name_x_3")).2.table.names =
        nested.table.names ++ [m, n] ∧
      ((nested.allocate .null (some "name_x_3")).2.allocate .null (some "name")).2.table.names =
        nested.table.names ++ [n, m]) ∧
    namesFor (stemOf "name") [("name_x_3", .null), ("name", .null), ("Name", .null)] nested =
      namesFor (stemOf "name") [("name", .null), ("p", .null), ("Name", .null)] sparse := by
  obtain ⟨hone, htwo, hmany⟩ := allocate_apart
  have hname : FitsSuffix "name" := by
    unfold FitsSuffix
    decide +kernel
  have hnameX : FitsSuffix "name_x_3" := by
    unfold FitsSuffix
    decide +kernel
  have hstems : stemOf "name" ≠ stemOf "name_x_3" := by decide +kernel
  have hstem : stemOf "name" = "name".toList := by decide +kernel
  have hstem' : stemOf "Name 7" = "name".toList := by decide +kernel
  refine ⟨⟨hname, hnameX, hstems⟩, ?_, ?_, ?_⟩
  · obtain ⟨name, hnested, -, hsparse⟩ := hone (some "Name 7") .null nested
    exact ⟨name, hnested, hsparse sparse (hstem' ▸ agreeOn_nested_sparse)⟩
  · exact htwo (some "name") (some "name_x_3") hname hnameX hstems .null .null nested
  · exact hmany "name" hname _ _ nested sparse (by decide +kernel) (hstem ▸ agreeOn_nested_sparse)

end Scope

end GraphQuery
