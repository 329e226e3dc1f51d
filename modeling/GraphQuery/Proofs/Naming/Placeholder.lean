import GraphQuery.Literal
import GraphQuery.Parameter
import GraphQuery.Proofs.Naming.Again
import GraphQuery.Proofs.Naming.Camel
import GraphQuery.Proofs.Text.Runs

/-!
# Names that are read back from a script

A placeholder is read in full if its name is of ASCII letters, digits and underscores and does not
start with a digit. Whether a chosen name is, depends on the canonical form of the request alone
(`isName_uniqueName`). An ASCII request fails it just if it has letters and a digit before them
(`isName_canonical_of_ascii`).
-/

namespace GraphQuery

namespace Literal

open Text

/-- Whether the whole of a text is the name of a placeholder. -/
def isName : List Char → Bool
  | [] => false
  | c :: rest => startsName c && rest.all continuesName

theorem leadingName_append {name rest : List Char} (hname : isName name)
    (hrest : Stops continuesName rest) : leadingName (name ++ rest) = name := by
  cases name with
  | nil => cases hname
  | cons c more =>
    simp only [isName, Bool.and_eq_true] at hname
    rw [List.cons_append, leadingName, if_pos hname.1, takeWhile_append_of_stops hname.2 hrest]

/-- A placeholder of the name is read with exactly that name, whatever stands after it that the
name could not go on with. -/
def Recognised (name : List Char) : Prop :=
  name ≠ [] ∧ ∀ rest, Stops continuesName rest → leadingName (name ++ rest) = name

theorem recognised_iff {name : List Char} : Recognised name ↔ isName name := by
  constructor
  · rintro ⟨hne, hread⟩
    have hleading := hread [] stops_nil
    rw [List.append_nil] at hleading
    cases name with
    | nil => exact absurd rfl hne
    | cons c more =>
      rw [leadingName] at hleading
      split at hleading
      · rename_i hc
        obtain htake := (List.cons.inj hleading).2
        rw [isName, hc, ← htake, List.all_takeWhile]
        rfl
      · cases hleading
  · intro hname
    refine ⟨?_, fun rest hrest => leadingName_append hname hrest⟩
    rintro rfl
    cases hname

theorem interpolate_placeholder {params : List (String × Json)} {name rest : List Char}
    (hname : Recognised name) (hrest : Stops continuesName rest) :
    interpolate params ('$' :: (name ++ rest)) =
      substitute params name ++ interpolate params rest := by
  obtain ⟨hne, hread⟩ := hname
  rw [interpolate, hread rest hrest, if_pos ⟨rfl, hne⟩, List.drop_left]

end Literal

namespace Naming

open Literal Text Unicode

/-! ## Chosen names -/

theorem continuesName_of_isDigit {c : Char} (h : c.isDigit) : continuesName c := by
  simp [continuesName, Char.isAlphanum, h]

theorem isName_append_digits {stem digits : List Char} (hne : stem ≠ [])
    (h : digits.all Char.isDigit) : isName (stem ++ digits) = isName stem := by
  have hall : digits.all continuesName := by
    simp only [List.all_eq_true] at h ⊢
    exact fun c hc => continuesName_of_isDigit (h c hc)
  cases stem with
  | nil => exact absurd rfl hne
  | cons c stem => simp [isName, hall]

theorem canonical_not_all_isDigit (requested : List Char) :
    (canonical requested).all Char.isDigit = false := by
  unfold canonical
  by_cases h : (camelCase requested).all Char.isDigit
  · simp [h, defaultStem]
  · simp [h]

theorem withoutDigits_ne_nil {name : List Char} (h : name.all Char.isDigit = false) :
    withoutDigits name ≠ [] := by
  intro hnil
  have hsplit := withoutDigits_append_trailingDigits name
  rw [hnil, List.nil_append] at hsplit
  rw [← hsplit, all_trailingDigits] at h
  cases h

theorem splitSuffix_stem {name : List Char} (h : name.all Char.isDigit = false) :
    (splitSuffix name).1 ≠ [] ∧ isName (splitSuffix name).1 = isName name := by
  rcases splitSuffix_cases name with ⟨-, hsplit⟩ | ⟨n, -, hsplit⟩
  · rw [hsplit]
    refine ⟨?_, rfl⟩
    rintro rfl
    cases h
  · have hne := withoutDigits_ne_nil h
    have hname := isName_append_digits hne (all_trailingDigits name)
    rw [withoutDigits_append_trailingDigits] at hname
    rw [hsplit]
    exact ⟨hne, hname.symm⟩

theorem isName_withSuffix {stem : List Char} (hne : stem ≠ []) (n : Nat) :
    isName (withSuffix stem n) = isName stem := by
  unfold withSuffix
  split
  · rfl
  · exact isName_append_digits hne (all_toDigits n)

theorem isName_uniqueName (requested : String) (existing : List String) :
    isName (uniqueName requested existing).toList = isName (canonical requested.toList) := by
  obtain ⟨hne, hname⟩ := splitSuffix_stem (canonical_not_all_isDigit requested.toList)
  unfold uniqueName
  rw [String.toList_ofList, isName_withSuffix hne, hname]

/-! ## Requests in ASCII -/

theorem isAlpha_of_isDigit {c : Char} (h : c.isDigit) : c.isAlpha = false := by
  have hkind : c.isDigit → c.isAlpha = false := by
    apply ascii_forall _ (toNat_lt_of_isDigit h)
    decide +kernel
  exact hkind h

theorem startsName_of_isAlphanum {c : Char} (h : c.isAlphanum) : startsName c = !c.isDigit := by
  unfold Char.isAlphanum at h
  unfold startsName
  by_cases hdigit : c.isDigit
  · have hne : c ≠ '_' := by
      rintro rfl
      cases hdigit
    simp [hdigit, isAlpha_of_isDigit hdigit, hne]
  · have halpha : c.isAlpha := by simpa [hdigit] using h
    simp [hdigit, halpha]

section
variable {s t : List Char} (h : List.Forall₂ SameKind s t)
include h

theorem SameKind.all_isDigit : t.all Char.isDigit = s.all Char.isDigit := by
  induction h with
  | nil => rfl
  | cons hkind _ ih => rw [List.all_cons, List.all_cons, hkind.2, ih]

theorem SameKind.all_continuesName : t.all continuesName := by
  induction h with
  | nil => rfl
  | cons hkind _ ih => simp [continuesName, hkind.1, ih]

theorem SameKind.isName_iff : isName t ↔ ∃ c ∈ s.head?, c.isDigit = false := by
  cases h with
  | nil => simp [isName]
  | cons hkind hrest =>
    rw [isName, startsName_of_isAlphanum hkind.1, hkind.2, SameKind.all_continuesName hrest]
    simp

end

/-- There is a letter before every digit. -/
def StartsWithLetter (requested : List Char) : Prop :=
  ∃ c ∈ (requested.filter isAlphanumeric).head?, c.isDigit = false

theorem isName_canonical_of_ascii {requested : List Char} (h : IsAscii requested) :
    isName (canonical requested) ↔
      (requested.filter isAlphanumeric).all Char.isDigit ∨ StartsWithLetter requested := by
  have hkinds := sameKind_camelCase h
  have hdigits := SameKind.all_isDigit hkinds
  have hname := SameKind.isName_iff hkinds
  unfold canonical
  by_cases hall : (camelCase requested).all Char.isDigit
  · rw [if_pos hall, isName_append_digits (by decide) hall]
    have hstem : isName defaultStem := by decide
    rw [hall] at hdigits
    simp [← hdigits, hstem]
  · rw [if_neg hall, hname]
    simp [← hdigits, hall, StartsWithLetter]

end Naming

namespace ParameterTable

open Literal Naming Text Unicode

/-- **A chosen name is read back if its request has a canonical form that is.** That fails to an
ASCII request just if it has letters and a digit before them. -/
theorem recognised_adopt_iff (t : ParameterTable) (requested : String) :
    ∃ name : String,
      (∀ h v, (t.adopt ⟨h, requested, v⟩).names = t.names ++ [name]) ∧
      (∀ next v request, request.getD defaultParameterName = requested →
        ((⟨t, next⟩ : Scope).allocate v request).2.table.names = t.names ++ [name]) ∧
      (Recognised name.toList ↔ isName (canonical requested.toList)) ∧
      (IsAscii requested.toList → (Recognised name.toList ↔
        (requested.toList.filter isAlphanumeric).all Char.isDigit ∨
          StartsWithLetter requested.toList)) ∧
      (Recognised name.toList → ∀ params rest, Stops continuesName rest →
        interpolate params ('$' :: (name.toList ++ rest)) =
          substitute params name.toList ++ interpolate params rest) := by
  have hname : Recognised (uniqueName requested t.names).toList ↔
      isName (uniqueName requested t.names).toList := recognised_iff
  rw [isName_uniqueName] at hname
  refine ⟨uniqueName requested t.names, ?_, ?_, hname, ?_, ?_⟩
  · intro h v
    exact names_adopt t _
  · rintro next v request rfl
    exact names_adopt t _
  · intro hascii
    exact hname.trans (isName_canonical_of_ascii hascii)
  · intro hread params rest hrest
    exact interpolate_placeholder hread hrest

theorem recognised_adopt_iff_lowerAge :
    ∃ name : String, (∀ next, ((⟨⟨[⟨⟨0⟩, "lowerAge", .null⟩]⟩, next⟩ : Scope).allocate .null
        (some "lower_age")).2.table.names = ["lowerAge", name]) ∧
      Recognised name.toList ∧ StartsWithLetter "lower_age".toList ∧
      interpolate [(name, .bool true)] ('$' :: (name.toList ++ " OR".toList)) =
        substitute [(name, .bool true)] name.toList ++
          interpolate [(name, .bool true)] " OR".toList := by
  obtain ⟨name, -, hallocate, hread, hascii, hinterpolate⟩ :=
    recognised_adopt_iff ⟨[⟨⟨0⟩, "lowerAge", .null⟩]⟩ "lower_age"
  have hrecognised : Recognised name.toList := hread.mpr (by decide +kernel)
  have hletter : ¬ ("lower_age".toList.filter isAlphanumeric).all Char.isDigit := by
    decide +kernel
  refine ⟨name, fun next => hallocate next .null _ rfl, hrecognised, ?_, ?_⟩
  · exact ((hascii (by decide)).mp hrecognised).resolve_left hletter
  · exact hinterpolate hrecognised _ _ (by simp [stops_cons, continuesName])

/-- A name may start with a digit, or go on with a letter that no placeholder has. -/
theorem adopt_names_not_recognised :
    (empty.adopt ⟨⟨0⟩, "7up", .null⟩).names = ["7Up"] ∧ ¬ Recognised "7Up".toList ∧
      interpolate [("7Up", .null)] "$7Up".toList = "$7Up".toList ∧
      (empty.adopt ⟨⟨0⟩, "größe", .null⟩).names = ["größe"] ∧ ¬ Recognised "größe".toList ∧
      interpolate [("größe", .null)] "$größe".toList = "$größe".toList := by
  simp only [recognised_iff]
  decide +kernel

end ParameterTable

end GraphQuery
