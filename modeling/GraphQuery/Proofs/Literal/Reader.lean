import GraphQuery.Literal
import GraphQuery.Proofs.Literal.Number
import GraphQuery.Proofs.Text.Name
import GraphQuery.Proofs.Text.Quotes

/-!
# Reading a literal

`read?` reads a literal of the query language: a word, a number, text in single quotes, a list, or
a map with names as keys, blanks being allowed around the items. It reads the literal of every
value back, numbers by their text, and stops where the literal ends (`read?_text`). So two values
have one literal only if they are the same up to the way their numbers are stored.
-/

namespace GraphQuery.Literal

open Json.Document (skipBlanks)
open Text

/-! ## The reader -/

/-- A literal as it is written. -/
inductive Tree
  | null
  | bool (value : Bool)
  | number (text : List Char)
  | string (value : String)
  | array (items : List Tree)
  | object (members : List (String × Tree))
deriving Repr

def keyword? (word : List Char) : Option Tree :=
  if word = "null".toList then some .null
  else if word = "true".toList then some (.bool true)
  else if word = "false".toList then some (.bool false)
  else none

mutual

def readValue? : Nat → List Char → Option (Tree × List Char)
  | 0, _ => none
  | fuel + 1, s =>
    match skipBlanks s with
    | [] => none
    | c :: rest =>
      if c = '-' ∨ c.isDigit then
        (readNumber? (c :: rest)).map fun (text, rest) => (.number text, rest)
      else if c = '\'' then
        (readQuoted? '\'' rest).map fun (s, rest) => (.string (String.ofList s), rest)
      else if c = '[' then
        match skipBlanks rest with
        | ']' :: rest => some (.array [], rest)
        | rest => (readItems? fuel rest).map fun (items, rest) => (.array items, rest)
      else if c = '\x7b' then
        match skipBlanks rest with
        | '\x7d' :: rest => some (.object [], rest)
        | rest => (readMembers? fuel rest).map fun (members, rest) => (.object members, rest)
      else
        (keyword? ((c :: rest).takeWhile continuesIdentifier)).map fun word =>
          (word, (c :: rest).dropWhile continuesIdentifier)

/-- Reads items up to the bracket that closes them. -/
def readItems? : Nat → List Char → Option (List Tree × List Char)
  | 0, _ => none
  | fuel + 1, s =>
    (readValue? fuel s).bind fun (item, s) =>
      match skipBlanks s with
      | ',' :: s => (readItems? fuel s).map fun (items, s) => (item :: items, s)
      | ']' :: s => some ([item], s)
      | _ => none

/-- Reads a key with its value. -/
def readMember? : Nat → List Char → Option ((String × Tree) × List Char)
  | 0, _ => none
  | fuel + 1, s =>
    (readName? (skipBlanks s)).bind fun (key, s) =>
      match skipBlanks s with
      | ':' :: s => (readValue? fuel s).map fun (v, s) => ((String.ofList key, v), s)
      | _ => none

/-- Reads keys with their values up to the brace that closes them. -/
def readMembers? : Nat → List Char → Option (List (String × Tree) × List Char)
  | 0, _ => none
  | fuel + 1, s =>
    (readMember? fuel s).bind fun (member, s) =>
      match skipBlanks s with
      | ',' :: s => (readMembers? fuel s).map fun (members, s) => (member :: members, s)
      | '\x7d' :: s => some ([member], s)
      | _ => none

end

section
variable {fuel : Nat}

theorem readValue?_space (s : List Char) : readValue? fuel (' ' :: s) = readValue? fuel s := by
  cases fuel with
  | zero => rfl
  | succ fuel =>
    rw [readValue?, readValue?]
    rfl

theorem readItems?_space (s : List Char) : readItems? fuel (' ' :: s) = readItems? fuel s := by
  cases fuel with
  | zero => rfl
  | succ fuel => rw [readItems?, readValue?_space, readItems?]

theorem readMembers?_space (s : List Char) :
    readMembers? fuel (' ' :: s) = readMembers? fuel s := by
  match fuel with
  | 0 => rfl
  | 1 => rfl
  | fuel + 2 => rfl

end

/-- Reads the literal that a text starts with. Every item takes a character, so there is fuel for
all of them. -/
def read? (s : List Char) : Option (Tree × List Char) :=
  readValue? (s.length + 1) s

/-! ## What is read -/

mutual

def tree : Json → Tree
  | .null => .null
  | .bool b => .bool b
  | .number n => .number n.text
  | .string s => .string s
  | .array items => .array (itemTrees items)
  | .object members => .object (memberTrees members)

def itemTrees : List Json → List Tree
  | [] => []
  | v :: rest => tree v :: itemTrees rest

def memberTrees : List (String × Json) → List (String × Tree)
  | [] => []
  | (key, v) :: rest => (key, tree v) :: memberTrees rest

end

/-- Neither an identifier nor a number goes on in a text. -/
def EndsValue (rest : List Char) : Prop :=
  Stops (fun c => continuesIdentifier c || c = '.') rest

variable {rest : List Char}

theorem EndsValue.identifier (h : EndsValue rest) : Stops continuesIdentifier rest :=
  h.imp fun c hc => by simp [hc]

theorem EndsValue.number (h : EndsValue rest) : EndsNumber rest where
  digit := h.imp fun c hc => by simp [continuesIdentifier_of_isDigit hc]
  point := h.imp fun c hc => by simpa using Or.inr hc
  power := h.imp fun c hc => by
    rw [decide_eq_true_eq] at hc
    subst hc
    decide +kernel

/-! ## What a literal starts with -/

def isBlank (c : Char) : Bool :=
  c = ' ' || c = '\t' || c = '\n' || c = '\r'

theorem skipBlanks_of_stops {s : List Char} (h : Stops isBlank s) : skipBlanks s = s := by
  cases s with
  | nil => rfl
  | cons c s => exact List.dropWhile_cons_of_neg (by simpa [isBlank] using stops_cons.mp h)

/-- Blanks, and brackets that close. -/
def closers : List Char :=
  [' ', '\t', '\n', '\r', ']', '\x7d']

/-- Whether no item starts with a character. -/
def opensNothing (c : Char) : Bool :=
  c ∈ closers

theorem skipBlanks_of_opens {s : List Char} (h : Stops opensNothing s) : skipBlanks s = s := by
  refine skipBlanks_of_stops (h.imp fun c hc => ?_)
  simp only [isBlank, Bool.or_eq_true, decide_eq_true_eq] at hc
  rcases hc with ((rfl | rfl) | rfl) | rfl <;> decide

theorem opensNothing_eq_false {p : Char → Bool} (hp : closers.all fun c => !p c) {c : Char}
    (hc : p c) : opensNothing c = false := by
  refine Bool.eq_false_iff.mpr fun hopens => ?_
  have hnot : (!p c) = true := List.all_eq_true.mp hp c (of_decide_eq_true hopens)
  rw [hc] at hnot
  cases hnot

theorem stops_number {s : List Char} (h : IsNumber s) : Stops opensNothing (s ++ rest) := by
  obtain ⟨c, more, rfl, hc⟩ := h.starts
  rw [List.cons_append, stops_cons]
  rcases hc with rfl | hc
  · decide
  · exact opensNothing_eq_false (by decide) hc

theorem stops_text (v : Json) : Stops opensNothing (text v ++ rest) := by
  cases v with
  | null => exact stops_cons.mpr (by decide)
  | bool b => cases b <;> exact stops_cons.mpr (by decide)
  | number n => exact stops_number (isNumber_text n)
  | string s => exact stops_cons.mpr (by decide)
  | array items => exact stops_cons.mpr (by decide)
  | object members => exact stops_cons.mpr (by decide)

theorem stops_itemsText {v : Json} {items : List Json} :
    Stops opensNothing (itemsText (v :: items) ++ rest) := by
  rw [itemsText, List.append_assoc]
  exact stops_text v

theorem stops_nameToken {s : List Char} : Stops opensNothing (nameToken s ++ rest) := by
  obtain ⟨c, more, htoken, hc⟩ := nameToken_starts s
  rw [htoken, List.cons_append, stops_cons]
  rcases hc with rfl | hc
  · decide
  · exact opensNothing_eq_false (by decide +kernel) hc

theorem stops_membersText {key : String} {v : Json} {members : List (String × Json)} :
    Stops opensNothing (membersText ((key, v) :: members) ++ rest) := by
  rw [membersText, List.append_assoc, List.append_assoc, List.append_assoc]
  exact stops_nameToken

/-! ## Reading back -/

section
variable {fuel : Nat}

theorem keyword?_starts {word : List Char} {v : Tree} (h : keyword? word = some v) :
    word.all continuesIdentifier ∧
      ∃ c more, word = c :: more ∧ (c = 'n' ∨ c = 't' ∨ c = 'f') := by
  unfold keyword? at h
  split at h
  · rename_i hnull
    subst hnull
    exact ⟨by decide +kernel, _, _, rfl, .inl rfl⟩
  split at h
  · rename_i htrue
    subst htrue
    exact ⟨by decide +kernel, _, _, rfl, .inr (.inl rfl)⟩
  split at h
  · rename_i hfalse
    subst hfalse
    exact ⟨by decide +kernel, _, _, rfl, .inr (.inr rfl)⟩
  · cases h

theorem readValue?_keyword {word : List Char} {v : Tree} (hword : keyword? word = some v)
    (hrest : EndsValue rest) : readValue? (fuel + 1) (word ++ rest) = some (v, rest) := by
  obtain ⟨hall, c, more, rfl, hc⟩ := keyword?_starts hword
  have hopens : opensNothing c = false ∧ ¬ (c = '-' ∨ c.isDigit) ∧ c ≠ '\'' ∧ c ≠ '[' ∧
      c ≠ '\x7b' := by
    rcases hc with rfl | rfl | rfl <;> decide
  obtain ⟨hopens, hnumber, hquote, hbracket, hbrace⟩ := hopens
  have hskip : skipBlanks (c :: (more ++ rest)) = c :: (more ++ rest) :=
    skipBlanks_of_opens (stops_cons.mpr hopens)
  have htake := takeWhile_append_of_stops hall hrest.identifier
  have hdrop := dropWhile_append_of_stops hall hrest.identifier
  rw [List.cons_append] at htake hdrop ⊢
  rw [readValue?, hskip]
  simp only [if_neg hnumber, if_neg hquote, if_neg hbracket, if_neg hbrace, htake, hdrop, hword]
  rfl

theorem readValue?_number {s : List Char} (h : IsNumber s) (hrest : EndsValue rest) :
    readValue? (fuel + 1) (s ++ rest) = some (.number s, rest) := by
  have hskip : skipBlanks (s ++ rest) = s ++ rest := skipBlanks_of_opens (stops_number h)
  have hread := h.read hrest.number
  obtain ⟨c, more, rfl, hc⟩ := h.starts
  rw [List.cons_append] at hskip hread ⊢
  rw [readValue?, hskip]
  simp only [if_pos hc, hread]
  rfl

theorem readValue?_quoted {s : List Char} :
    readValue? (fuel + 1) (quoted s ++ rest) = some (.string (String.ofList s), rest) := by
  have hread : readQuoted? '\'' (escape '\'' s ++ '\'' :: rest) = some (s, rest) :=
    readQuoted?_escape (by simp [IsQuote])
  have hquoted : quoted s ++ rest = '\'' :: (escape '\'' s ++ '\'' :: rest) := by simp [quoted]
  rw [hquoted, readValue?, skipBlanks_of_opens (stops_cons.mpr (by decide))]
  simp [hread]

theorem readValue?_array {s : List Char} (h : Stops opensNothing s) :
    readValue? (fuel + 1) ('[' :: s) =
      (readItems? fuel s).map fun (items, rest) => (.array items, rest) := by
  rw [readValue?, skipBlanks_of_opens (stops_cons.mpr (by decide))]
  simp only [skipBlanks_of_opens h]
  cases s with
  | nil => rfl
  | cons c s =>
    have hc : c ≠ ']' := by
      rintro rfl
      exact absurd (stops_cons.mp h) (by decide)
    simp [hc]

theorem readValue?_object {s : List Char} (h : Stops opensNothing s) :
    readValue? (fuel + 1) ('\x7b' :: s) =
      (readMembers? fuel s).map fun (members, rest) => (.object members, rest) := by
  rw [readValue?, skipBlanks_of_opens (stops_cons.mpr (by decide))]
  simp only [skipBlanks_of_opens h]
  cases s with
  | nil => rfl
  | cons c s =>
    have hc : c ≠ '\x7d' := by
      rintro rfl
      exact absurd (stops_cons.mp h) (by decide)
    simp [hc]

theorem readMember?_token (key : String) (s : List Char) :
    readMember? (fuel + 1) (nameToken key.toList ++ ':' :: ' ' :: s) =
      (readValue? fuel s).map fun (v, s) => ((key, v), s) := by
  have hcolon : Stops continuesToken (':' :: ' ' :: s) := stops_cons.mpr (by decide +kernel)
  rw [readMember?, skipBlanks_of_opens stops_nameToken, readName?_nameToken hcolon]
  show (readValue? fuel (' ' :: s)).map (fun (v, s) => ((String.ofList key.toList, v), s)) = _
  rw [readValue?_space, String.ofList_toList]

end

theorem endsValue_comma : EndsValue (',' :: rest) := stops_cons.mpr (by decide +kernel)

theorem endsValue_bracket : EndsValue (']' :: rest) := stops_cons.mpr (by decide +kernel)

theorem endsValue_brace : EndsValue ('\x7d' :: rest) := stops_cons.mpr (by decide +kernel)

mutual

theorem readValue?_text : ∀ (v : Json) (fuel : Nat) (rest : List Char), (text v).length < fuel →
    EndsValue rest → readValue? fuel (text v ++ rest) = some (tree v, rest)
  | _, 0, _, hfuel, _ => absurd hfuel (Nat.not_lt_zero _)
  | .null, fuel + 1, rest, _, hrest => readValue?_keyword rfl hrest
  | .bool true, fuel + 1, rest, _, hrest => readValue?_keyword rfl hrest
  | .bool false, fuel + 1, rest, _, hrest => readValue?_keyword rfl hrest
  | .number n, fuel + 1, rest, _, hrest => readValue?_number (isNumber_text n) hrest
  | .string s, fuel + 1, rest, _, _ => by
    rw [text, readValue?_quoted, String.ofList_toList]
    rfl
  | .array [], fuel + 1, rest, _, _ => rfl
  | .array (v :: items), fuel + 1, rest, hfuel, _ => by
    have htext : text (.array (v :: items)) ++ rest =
        '[' :: (itemsText (v :: items) ++ ']' :: rest) := by simp [text]
    have hlength : (itemsText (v :: items)).length + 1 < fuel := by
      simp only [text, List.length_append, List.length_cons, List.length_nil] at hfuel
      omega
    rw [htext, readValue?_array stops_itemsText, readItems?_itemsText v items fuel rest hlength]
    rfl
  | .object [], fuel + 1, rest, _, _ => rfl
  | .object (member :: members), fuel + 1, rest, hfuel, _ => by
    have htext : text (.object (member :: members)) ++ rest =
        '\x7b' :: (membersText (member :: members) ++ '\x7d' :: rest) := by simp [text]
    have hlength : (membersText (member :: members)).length + 1 < fuel := by
      simp only [text, List.length_append, List.length_cons, List.length_nil] at hfuel
      omega
    rw [htext, readValue?_object stops_membersText,
      readMembers?_membersText member members fuel rest hlength]
    rfl

theorem readItems?_itemsText : ∀ (v : Json) (items : List Json) (fuel : Nat) (rest : List Char),
    (itemsText (v :: items)).length + 1 < fuel →
    readItems? fuel (itemsText (v :: items) ++ ']' :: rest) =
      some (itemTrees (v :: items), rest)
  | _, _, 0, _, hfuel => absurd hfuel (Nat.not_lt_zero _)
  | v, [], fuel + 1, rest, hfuel => by
    have htext : itemsText [v] = text v := by simp [itemsText]
    rw [htext] at hfuel ⊢
    rw [readItems?, readValue?_text v fuel _ (by omega) endsValue_bracket]
    rfl
  | v, w :: items, fuel + 1, rest, hfuel => by
    have htext : itemsText (v :: w :: items) = text v ++ ',' :: ' ' :: itemsText (w :: items) := rfl
    rw [htext, List.length_append, List.length_cons, List.length_cons] at hfuel
    rw [htext, List.append_assoc, readItems?, List.cons_append,
      readValue?_text v fuel _ (by omega) endsValue_comma]
    show (readItems? fuel (' ' :: (itemsText (w :: items) ++ ']' :: rest))).map _ = _
    rw [readItems?_space, readItems?_itemsText w items fuel rest (by omega)]
    rfl

theorem readMembers?_membersText : ∀ (member : String × Json) (members : List (String × Json))
    (fuel : Nat) (rest : List Char), (membersText (member :: members)).length + 1 < fuel →
    readMembers? fuel (membersText (member :: members) ++ '\x7d' :: rest) =
      some (memberTrees (member :: members), rest)
  | _, _, 0, _, hfuel => absurd hfuel (Nat.not_lt_zero _)
  | _, _, 1, _, hfuel => absurd hfuel (by omega)
  | (key, v), [], fuel + 2, rest, hfuel => by
    have htext : membersText [(key, v)] = nameToken key.toList ++ ':' :: ' ' :: text v := by
      simp [membersText]
    rw [htext, List.length_append, List.length_cons, List.length_cons] at hfuel
    rw [htext, List.append_assoc, readMembers?, List.cons_append, List.cons_append,
      readMember?_token, readValue?_text v fuel _ (by omega) endsValue_brace]
    rfl
  | (key, v), member :: members, fuel + 2, rest, hfuel => by
    have htext : membersText ((key, v) :: member :: members) = nameToken key.toList ++
        ':' :: ' ' :: (text v ++ ',' :: ' ' :: membersText (member :: members)) := by
      rw [membersText]
      simp
    rw [htext] at hfuel ⊢
    simp only [List.length_append, List.length_cons] at hfuel
    rw [List.append_assoc, readMembers?, List.cons_append, List.cons_append, List.append_assoc,
      readMember?_token, List.cons_append, readValue?_text v fuel _ (by omega) endsValue_comma]
    show (readMembers? (fuel + 1)
      (' ' :: (membersText (member :: members) ++ '\x7d' :: rest))).map _ = _
    rw [readMembers?_space, readMembers?_membersText member members (fuel + 1) rest (by omega)]
    rfl

end

/-- **A literal is read back**, whatever comes after it that neither an identifier nor a number
could go on with. -/
theorem read?_text (v : Json) {rest : List Char} (hrest : EndsValue rest) :
    read? (text v ++ rest) = some (tree v, rest) := by
  refine readValue?_text v _ rest ?_ hrest
  rw [List.length_append]
  omega

end GraphQuery.Literal
