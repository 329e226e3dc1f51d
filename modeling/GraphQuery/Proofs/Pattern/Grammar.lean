import GraphQuery.Pattern.Basic
import GraphQuery.Proofs.Fragment.Marks
import GraphQuery.Proofs.Naming.Fresh
import GraphQuery.Proofs.Text.Name
import GraphQuery.Proofs.Text.Separated

/-!
# Reading a pattern

`readPattern?` reads the marks of a pattern by the grammar of patterns: arrows, a name, labels with
separators between them, a length, and a map of keys with a handle each. What stands inside the
brackets of a pattern is read back from the way it is written (`readContent?_contentMarks`): no
part goes on in what comes after it, since bare names have no punctuation in them and quoted ones
end at a backtick.
-/

namespace GraphQuery

namespace Pattern

open Text

/-! ## Names, labels and lengths -/

/-- What is written before the conditions of a pattern. -/
structure Head where
  name : String
  labels : List String
  length : Option PathLength
deriving DecidableEq, Repr

def readLabel? (s : List Char) : Option (String × List Char) :=
  (readName? s).map fun (name, rest) => (String.ofList name, rest)

/-- Reads labels if a colon comes before them. -/
def readLabels? (separator : Char) : List Char → Option (List String × List Char)
  | [] => some ([], [])
  | c :: s =>
    if c = ':' then readSeparated? separator readLabel? s else some ([], c :: s)

def readBound (s : List Char) : Option Nat × List Char :=
  if s.takeWhile Char.isDigit = [] then (none, s)
  else (some (Nat.ofDigitChars 10 (s.takeWhile Char.isDigit) 0), s.dropWhile Char.isDigit)

/-- Reads a length if a star comes before it. -/
def readLength : List Char → Option PathLength × List Char
  | [] => (none, [])
  | c :: s =>
    if c = '*' then
      match readBound s with
      | (min, '.' :: '.' :: s) => (some (.range min (readBound s).1), (readBound s).2)
      | (some n, s) => (some (.exact n), s)
      | (none, s) => (some .any, s)
    else (none, c :: s)

def readHead? (separator : Char) (s : List Char) : Option (Head × List Char) :=
  let (name, s) := (readLabel? s).getD ("", s)
  (readLabels? separator s).map fun (labels, s) =>
    (⟨name, labels, (readLength s).1⟩, (readLength s).2)

/-! ## Conditions -/

def skipSpaces (s : List Mark) : List Mark :=
  s.dropWhile (· = .char ' ')

/-- Reads a key with the handle of its value. -/
def readEntry? (s : List Mark) : Option ((String × Handle) × List Mark) :=
  (readText? readLabel? (skipSpaces s)).bind fun (key, s) =>
    match skipSpaces s with
    | .char ':' :: s =>
      match skipSpaces s with
      | .param h :: s => some ((key, h), s)
      | _ => none
    | _ => none

/-- Reads conditions if a brace comes before them. -/
def readEntries? (s : List Mark) : Option (List (String × Handle) × List Mark) :=
  match skipSpaces s with
  | .char '\x7b' :: s =>
    (readSeparated? (.char ',') readEntry? s).bind fun (entries, s) =>
      match skipSpaces s with
      | .char '\x7d' :: s => some (entries, s)
      | _ => none
  | _ => some ([], s)

/-! ## Patterns -/

/-- What can be told from the fragment of a pattern. -/
structure Reading where
  shape : Shape
  name : String
  labels : List String
  entries : List (String × Handle)
deriving DecidableEq, Repr

def readContent? (separator : Char) (s : List Mark) :
    Option ((Head × List (String × Handle)) × List Mark) :=
  (readText? (readHead? separator) s).bind fun (head, s) =>
    (readEntries? s).map fun (entries, s) => ((head, entries), s)

/-- Reads a content between brackets, if there are brackets. -/
def readBrackets? : List Mark → Option ((Head × List (String × Handle)) × List Mark)
  | .char '[' :: s =>
    (readContent? '|' s).bind fun (content, s) =>
      match s with
      | .char ']' :: s => some (content, s)
      | _ => none
  | s => some ((⟨"", [], none⟩, []), s)

/-- The direction of a relation, by the arrow before the brackets and the one after them. -/
def direction? (incoming : Bool) (closing : List Mark) : Option Direction :=
  if incoming then if closing = [.char '-'] then some .incoming else none
  else if closing = [.char '-', .char '>'] then some .outgoing
  else if closing = [.char '-'] then some .either
  else none

def readRelation? (incoming : Bool) (s : List Mark) : Option Reading :=
  (readBrackets? s).bind fun ((head, entries), s) =>
    (direction? incoming s).map fun direction =>
      ⟨.relation direction head.length, head.name, head.labels, entries⟩

def readNode? (s : List Mark) : Option Reading :=
  (readContent? ':' s).bind fun ((head, entries), s) =>
    if head.length = none ∧ s = [.char ')'] then some ⟨.node, head.name, head.labels, entries⟩
    else none

/-- Reads a pattern that takes up all of the marks. -/
def readPattern? : List Mark → Option Reading
  | .char '(' :: s => readNode? s
  | .char '<' :: .char '-' :: s => readRelation? true s
  | .char '-' :: s => readRelation? false s
  | _ => none

/-! ## Reading a head back -/

/-- The head of a pattern does not go on in a text. -/
def EndsHead (rest : List Char) : Prop :=
  Stops (fun c => continuesToken c || c ∈ [':', '|', '*', '.']) rest

theorem EndsHead.token {rest : List Char} (h : EndsHead rest) : Stops continuesToken rest :=
  h.imp fun c hc => by simp [hc]

theorem EndsHead.digit {rest : List Char} (h : EndsHead rest) : Stops Char.isDigit rest :=
  h.token.imp fun c hc => by simp [continuesToken, continuesIdentifier_of_isDigit hc]

theorem EndsHead.stops {rest : List Char} (h : EndsHead rest) {c : Char}
    (hc : c ∈ [':', '|', '*', '.']) : Stops (· = c) rest :=
  h.imp fun d hd => by
    obtain rfl := of_decide_eq_true hd
    simp [hc]

variable {rest : List Char}

theorem readLabel?_nameToken {label : String} (hrest : Stops continuesToken rest) :
    readLabel? (nameToken label.toList ++ rest) = some (label, rest) := by
  rw [readLabel?, readName?_nameToken hrest]
  simp

/-- Labels as they are written, with the colon before them. -/
def labelsText (separator : Char) (labels : List String) : List Char :=
  if labels = [] then []
  else ':' :: List.intercalate [separator] (labels.map fun label => nameToken label.toList)

theorem readLabels?_labelsText {separator : Char} {labels : List String}
    (hseparator : continuesToken separator = false) (hrest : Stops continuesToken rest)
    (hcolon : Stops (· = ':') rest) (hend : Stops (· = separator) rest) :
    readLabels? separator (labelsText separator labels ++ rest) = some (labels, rest) := by
  unfold labelsText
  by_cases hlabels : labels = []
  · subst hlabels
    cases rest with
    | nil => rfl
    | cons c rest =>
      have hc : c ≠ ':' := stops_eq_cons.mp hcolon
      simp [readLabels?, hc]
  · rw [if_neg hlabels, List.cons_append, readLabels?, if_pos rfl]
    refine readSeparated?_intercalate [] (fun label rest h => readLabel?_nameToken h)
      (fun s => rfl) (fun s => stops_cons.mpr hseparator) hrest ?_ hlabels
    intro hhead
    exact absurd (hend separator hhead) (by simp)

theorem readBound_digits (n : Nat) (hrest : Stops Char.isDigit rest) :
    readBound (Nat.toDigits 10 n ++ rest) = (some n, rest) := by
  have hall := Naming.all_toDigits n
  rw [readBound, takeWhile_append_of_stops hall hrest, dropWhile_append_of_stops hall hrest,
    if_neg Nat.toDigits_ne_nil, Nat.ofDigitChars_ten_toDigits]

theorem readBound_none (hrest : Stops Char.isDigit rest) : readBound rest = (none, rest) := by
  have htake : ([] ++ rest).takeWhile Char.isDigit = [] := takeWhile_append_of_stops rfl hrest
  rw [List.nil_append] at htake
  rw [readBound, if_pos htake]

theorem readBound_boundText (bound : Option Nat) (hrest : Stops Char.isDigit rest) :
    readBound ((PathLength.boundText bound).toList ++ rest) = (bound, rest) := by
  cases bound with
  | none => exact readBound_none hrest
  | some n =>
    have htext : (PathLength.boundText (some n)).toList = Nat.toDigits 10 n := by
      simp [PathLength.boundText]
    rw [htext, readBound_digits n hrest]

theorem readLength_of_bound {s : List Char} {bound : Option Nat}
    (hbound : readBound s = (bound, rest)) (hpoint : Stops (· = '.') rest) :
    readLength ('*' :: s) = (some ((bound.map PathLength.exact).getD .any), rest) := by
  rw [readLength, if_pos rfl, hbound]
  cases rest with
  | nil => cases bound <;> rfl
  | cons c rest =>
    have hc : c ≠ '.' := stops_eq_cons.mp hpoint
    cases bound <;> simp [hc]

theorem readLength_text {length : PathLength} (hdigit : Stops Char.isDigit rest)
    (hpoint : Stops (· = '.') rest) :
    readLength (length.text.toList ++ rest) = (some length, rest) := by
  cases length with
  | any => exact readLength_of_bound (readBound_none hdigit) hpoint
  | exact n =>
    have htext : (PathLength.exact n).text.toList ++ rest = '*' :: (Nat.toDigits 10 n ++ rest) := by
      simp [PathLength.text]
    rw [htext]
    exact readLength_of_bound (readBound_digits n hdigit) hpoint
  | range min max =>
    have htext : (PathLength.range min max).text.toList ++ rest = '*' ::
        ((PathLength.boundText min).toList ++
          '.' :: '.' :: ((PathLength.boundText max).toList ++ rest)) := by
      simp [PathLength.text]
    have hafter : Stops Char.isDigit ('.' :: '.' :: ((PathLength.boundText max).toList ++ rest)) :=
      stops_cons.mpr (by decide)
    rw [htext, readLength, if_pos rfl, readBound_boundText min hafter]
    simp only [readBound_boundText max hdigit]

def lengthText (length : Option PathLength) : List Char :=
  ((length.map PathLength.text).getD "").toList

theorem stops_lengthText {p : Char → Bool} (hp : p '*' = false) (length : Option PathLength) :
    Stops p (lengthText length) := by
  cases length with
  | none => exact stops_nil
  | some length =>
    have hstar : ∃ more, length.text.toList = '*' :: more := by
      cases length <;> simp [PathLength.text]
    obtain ⟨more, hmore⟩ := hstar
    show Stops p length.text.toList
    rw [hmore]
    exact stops_cons.mpr hp

theorem stops_labelsText {p : Char → Bool} (hp : p ':' = false) (separator : Char)
    (labels : List String) : Stops p (labelsText separator labels) := by
  unfold labelsText
  by_cases hlabels : labels = []
  · rw [if_pos hlabels]
    exact stops_nil
  · rw [if_neg hlabels]
    exact stops_cons.mpr hp

theorem labelsText_eq_nil_iff {separator : Char} {labels : List String} :
    labelsText separator labels = [] ↔ labels = [] := by
  unfold labelsText
  by_cases hlabels : labels = [] <;> simp [hlabels]

theorem lengthText_eq_nil_iff {length : Option PathLength} :
    lengthText length = [] ↔ length = none := by
  cases length with
  | none => simp [lengthText]
  | some length => cases length <;> simp [lengthText, PathLength.text]

theorem readLength_lengthText (length : Option PathLength) (hrest : EndsHead rest) :
    readLength (lengthText length ++ rest) = (length, rest) := by
  cases length with
  | some length => exact readLength_text hrest.digit (hrest.stops (by simp))
  | none =>
    have hstar : Stops (· = '*') rest := hrest.stops (by simp)
    cases rest with
    | nil => rfl
    | cons c rest =>
      have hc : c ≠ '*' := stops_eq_cons.mp hstar
      simp [lengthText, readLength, hc]

theorem readLabel?_name {name : String} (hname : name = "" ∨ isIdentifier name.toList)
    (hrest : Stops continuesToken rest) :
    (readLabel? (name.toList ++ rest)).getD ("", name.toList ++ rest) = (name, rest) := by
  rcases hname with rfl | hname
  · simp [readLabel?, readName?_none hrest]
  · have htoken : readLabel? (nameToken name.toList ++ rest) = some (name, rest) :=
      readLabel?_nameToken hrest
    rw [nameToken, if_pos hname] at htoken
    rw [htoken, Option.getD_some]

/-- The head of a pattern as it is written. -/
def headText (separator : Char) (head : Head) : List Char :=
  head.name.toList ++ (labelsText separator head.labels ++ lengthText head.length)

theorem readHead?_headText {separator : Char} {head : Head}
    (hname : head.name = "" ∨ isIdentifier head.name.toList)
    (hseparator : separator = ':' ∨ separator = '|') (hrest : EndsHead rest) :
    readHead? separator (headText separator head ++ rest) = some (head, rest) := by
  have hplain : continuesToken separator = false ∧ separator ∈ [':', '|', '*', '.'] ∧
      separator ≠ '*' := by
    rcases hseparator with rfl | rfl <;> decide +kernel
  obtain ⟨htoken, hmem, hstar⟩ := hplain
  -- nothing of the name, the labels and the length goes on in what is written after it
  have hafterLabels : ∀ p : Char → Bool, p '*' = false → Stops p rest →
      Stops p (lengthText head.length ++ rest) := fun p hp hends =>
    (stops_lengthText hp head.length).append hends
  have hafterName : Stops continuesToken
      (labelsText separator head.labels ++ (lengthText head.length ++ rest)) :=
    (stops_labelsText (by decide +kernel) separator head.labels).append
      (hafterLabels continuesToken (by decide +kernel) hrest.token)
  have hlabels : readLabels? separator
      (labelsText separator head.labels ++ (lengthText head.length ++ rest)) =
        some (head.labels, lengthText head.length ++ rest) :=
    readLabels?_labelsText htoken (hafterLabels _ (by decide +kernel) hrest.token)
      (hafterLabels _ (by decide) (hrest.stops (by simp)))
      (hafterLabels (· = separator) (by simp [hstar.symm]) (hrest.stops hmem))
  unfold readHead? headText
  rw [List.append_assoc, List.append_assoc, readLabel?_name hname hafterName]
  simp only [hlabels, Option.map_some, readLength_lengthText head.length hrest]

/-! ## Reading conditions back -/

theorem readEntry?_entryFragment (entry : String × Handle) (rest : List Mark) :
    readEntry? ((PatternConditions.entryFragment entry).marks ++ rest) = some (entry, rest) := by
  obtain ⟨key, h⟩ := entry
  have hmarks : (PatternConditions.entryFragment (key, h)).marks ++ rest =
      (nameToken key.toList).map .char ++ .char ':' :: .char ' ' :: .param h :: rest := by
    simp [PatternConditions.entryFragment]
  have hskip : skipSpaces
      ((nameToken key.toList).map .char ++ .char ':' :: .char ' ' :: .param h :: rest) =
        (nameToken key.toList).map .char ++ .char ':' :: .char ' ' :: .param h :: rest := by
    obtain ⟨c, more, htoken, hc⟩ := nameToken_starts key.toList
    have hspace : c ≠ ' ' := by
      rintro rfl
      rcases hc with hc | hc <;> exact absurd hc (by decide +kernel)
    rw [htoken, List.map_cons, List.cons_append]
    exact List.dropWhile_cons_of_neg (by simpa using hspace)
  have hkey : readLabel? (nameToken key.toList ++
      leadingText (.char ':' :: .char ' ' :: .param h :: rest)) =
        some (key, leadingText (.char ':' :: .char ' ' :: .param h :: rest)) :=
    readLabel?_nameToken (stops_cons.mpr (by decide +kernel))
  rw [hmarks, readEntry?, hskip, readText?_append hkey]
  rfl

/-- Conditions as they are written, after a space unless they come first. -/
def conditionsMarks (first : Bool) (entries : List (String × Handle)) : List Mark :=
  if entries = [] then []
  else (if first then [] else [.char ' ']) ++ (.char '\x7b' :: .char ' ' ::
    (List.intercalate [.char ',', .char ' ']
      (entries.map fun entry => (PatternConditions.entryFragment entry).marks) ++
        [.char ' ', .char '\x7d']))

theorem readEntries?_brace (first : Bool) {s rest : List Mark} {entries : List (String × Handle)}
    (h : readSeparated? (.char ',') readEntry? s =
      some (entries, .char ' ' :: .char '\x7d' :: rest)) :
    readEntries? ((if first then [] else [.char ' ']) ++ .char '\x7b' :: s) =
      some (entries, rest) := by
  have hread : readEntries? (.char '\x7b' :: s) = some (entries, rest) := by
    show (readSeparated? (.char ',') readEntry? s).bind _ = _
    rw [h]
    rfl
  cases first with
  | true => exact hread
  | false => exact hread

theorem readEntries?_conditionsMarks (first : Bool) (entries : List (String × Handle))
    {c : Char} (hc : c = ')' ∨ c = ']') (rest : List Mark) :
    readEntries? (conditionsMarks first entries ++ .char c :: rest) =
      some (entries, .char c :: rest) := by
  unfold conditionsMarks
  by_cases hentries : entries = []
  · subst hentries
    rcases hc with rfl | rfl <;> rfl
  · rw [if_neg hentries]
    simp only [List.append_assoc, List.cons_append, List.nil_append]
    have hread : ∀ entry rest, True → readEntry?
        ((PatternConditions.entryFragment entry).marks ++ rest) = some (entry, rest) :=
      fun entry rest _ => readEntry?_entryFragment entry rest
    have hspace : (Mark.char ' ' :: .char '\x7d' :: .char c :: rest).head? ≠ some (.char ',') := by
      simp
    refine readEntries?_brace first ?_
    exact readSeparated?_intercalate [.char ' '] hread (fun s => rfl) (fun _ => trivial) trivial
      hspace hentries

/-! ## Reading a pattern back -/

def contentMarks (separator : Char) (head : Head) (entries : List (String × Handle)) : List Mark :=
  (headText separator head).map .char ++ conditionsMarks (headText separator head = []) entries

theorem conditionsMarks_eq_nil_iff {first : Bool} {entries : List (String × Handle)} :
    conditionsMarks first entries = [] ↔ entries = [] := by
  unfold conditionsMarks
  by_cases hentries : entries = [] <;> simp [hentries]

theorem conditionsMarks_false {entries : List (String × Handle)} (h : entries ≠ []) :
    conditionsMarks false entries = .char ' ' :: conditionsMarks true entries := by
  simp [conditionsMarks, h]

theorem eq_nil_of_contentMarks {separator : Char} {head : Head} {entries : List (String × Handle)}
    (h : contentMarks separator head entries = []) : head = ⟨"", [], none⟩ ∧ entries = [] := by
  obtain ⟨hhead, hconditions⟩ := List.append_eq_nil_iff.mp h
  obtain ⟨hname, hmore⟩ := List.append_eq_nil_iff.mp (List.map_eq_nil_iff.mp hhead)
  obtain ⟨hlabels, hlength⟩ := List.append_eq_nil_iff.mp hmore
  obtain ⟨name, labels, length⟩ := head
  obtain rfl := String.toList_eq_nil_iff.mp hname
  obtain rfl := labelsText_eq_nil_iff.mp hlabels
  obtain rfl := lengthText_eq_nil_iff.mp hlength
  exact ⟨rfl, conditionsMarks_eq_nil_iff.mp hconditions⟩

theorem endsHead_conditionsMarks (first : Bool) (entries : List (String × Handle)) {c : Char}
    (hc : c = ')' ∨ c = ']') (rest : List Mark) :
    EndsHead (leadingText (conditionsMarks first entries ++ .char c :: rest)) := by
  unfold conditionsMarks
  by_cases hentries : entries = []
  · rw [if_pos hentries]
    rcases hc with rfl | rfl <;> exact stops_cons.mpr (by decide +kernel)
  · rw [if_neg hentries]
    cases first <;> exact stops_cons.mpr (by decide +kernel)

theorem readContent?_contentMarks {separator : Char} {head : Head}
    (hname : head.name = "" ∨ isIdentifier head.name.toList)
    (hseparator : separator = ':' ∨ separator = '|') (entries : List (String × Handle))
    {c : Char} (hc : c = ')' ∨ c = ']') (rest : List Mark) :
    readContent? separator (contentMarks separator head entries ++ .char c :: rest) =
      some ((head, entries), .char c :: rest) := by
  have hhead := readHead?_headText hname hseparator
    (endsHead_conditionsMarks (headText separator head = []) entries hc rest)
  rw [contentMarks, List.append_assoc, readContent?, readText?_append hhead]
  show (readEntries? _).map _ = _
  rw [readEntries?_conditionsMarks _ entries hc]
  rfl

end Pattern

end GraphQuery
