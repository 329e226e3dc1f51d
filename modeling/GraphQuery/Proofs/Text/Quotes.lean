import GraphQuery.Json.Document
import GraphQuery.Text.Quoted

/-!
# Reading quoted text

Text between quotes is read back from the way it is written, whatever characters it has, and the
quote that closes it is the first one that is not escaped.
-/

namespace GraphQuery.Text

open Json.Document (hex4? hexDigit?)

/-- The character for which a letter stands after a backslash. -/
def unescape? (quote letter : Char) : Option Char :=
  if letter = '\\' ∨ letter = quote then some letter
  else if letter = 'n' then some '\n'
  else if letter = 'r' then some '\r'
  else if letter = 't' then some '\t'
  else none

def charOfCode? (code : Nat) : Option Char :=
  if code.isValidChar then some (Char.ofNat code) else none

/-- The text that was read, with a character in front. -/
def push (c : Char) : List Char × List Char → List Char × List Char
  | (s, rest) => (c :: s, rest)

/-- Reads text up to the quote that closes it. -/
def readQuoted? (quote : Char) : List Char → Option (List Char × List Char)
  | [] => none
  | '\\' :: 'u' :: h₁ :: h₂ :: h₃ :: h₄ :: rest =>
    ((hex4? h₁ h₂ h₃ h₄).bind charOfCode?).bind fun c => (readQuoted? quote rest).map (push c)
  | '\\' :: letter :: rest =>
    (unescape? quote letter).bind fun c => (readQuoted? quote rest).map (push c)
  | c :: rest => if c = quote then some ([], rest) else (readQuoted? quote rest).map (push c)

variable {quote c letter : Char} {s rest : List Char}

/-! ## One character -/

theorem readQuoted?_quote (hquote : quote ≠ '\\') :
    readQuoted? quote (quote :: rest) = some ([], rest) := by
  rw [readQuoted?, if_pos rfl]
  all_goals simp [hquote]

theorem readQuoted?_plain (hc : c ≠ '\\') (hquote : c ≠ quote) :
    readQuoted? quote (c :: rest) = (readQuoted? quote rest).map (push c) := by
  rw [readQuoted?, if_neg hquote]
  all_goals simp [hc]

theorem readQuoted?_letter (hletter : letter ≠ 'u') (hc : unescape? quote letter = some c) :
    readQuoted? quote ('\\' :: letter :: rest) = (readQuoted? quote rest).map (push c) := by
  rw [readQuoted?, hc]
  · rfl
  · simp [hletter]

theorem hexDigit?_digitChar {n : Nat} (h : n < 16) : hexDigit? (Nat.digitChar n) = some n := by
  revert n
  decide

theorem readQuoted?_code (hc : c.toNat < 0x10000) :
    readQuoted? quote ('\\' :: 'u' :: hex4 c.toNat ++ rest) =
      (readQuoted? quote rest).map (push c) := by
  have hcode : ∀ n : Nat, n < 0x10000 →
      ((n / 4096 % 16 * 16 + n / 256 % 16) * 16 + n / 16 % 16) * 16 + n % 16 = n := by omega
  have hvalid : c.toNat.isValidChar := c.valid
  have hdigit : ∀ n : Nat, hexDigit? (Nat.digitChar (n % 16)) = some (n % 16) := fun n =>
    hexDigit?_digitChar (Nat.mod_lt n (by decide))
  simp [hex4, readQuoted?, hex4?, hdigit, hcode c.toNat hc, charOfCode?, hvalid]

/-! ## Written text -/

/-- Quotes that are not letters of an escape. -/
def IsQuote (quote : Char) : Prop :=
  quote ∉ ['\\', 'n', 'r', 't', 'u']

theorem isControl_lt (h : isControl c) : c.toNat < 0x10000 := by
  obtain ⟨r, hr, -, hle⟩ := Unicode.exists_of_inRanges h
  have hends : ∀ r ∈ [(0x00, 0x1F), (0x7F, 0x9F)], r.2 < 0x10000 := by decide
  exact Nat.lt_of_le_of_lt hle (hends r hr)

theorem readQuoted?_escapeChar (hquote : IsQuote quote) (c : Char) (rest : List Char) :
    readQuoted? quote (escapeChar quote c ++ rest) = (readQuoted? quote rest).map (push c) := by
  simp only [IsQuote, List.mem_cons, List.not_mem_nil, or_false, not_or] at hquote
  obtain ⟨-, hn, hr, ht, hu⟩ := hquote
  unfold escapeChar
  split
  · rename_i hc
    exact readQuoted?_letter (by decide) (by simp [unescape?, hc])
  rename_i hbackslash
  split
  · rename_i hc
    exact readQuoted?_letter (by rw [hc]; exact hu) (by simp [unescape?, hc])
  rename_i hplain
  split
  · rename_i hc
    exact readQuoted?_letter (by decide) (by simp [unescape?, hc, Ne.symm hn])
  split
  · rename_i hc
    exact readQuoted?_letter (by decide) (by simp [unescape?, hc, Ne.symm hr])
  split
  · rename_i hc
    exact readQuoted?_letter (by decide) (by simp [unescape?, hc, Ne.symm ht])
  split
  · rename_i hcontrol
    exact readQuoted?_code (isControl_lt hcontrol)
  · exact readQuoted?_plain hbackslash hplain

/-- **Quoted text is read back.** -/
theorem readQuoted?_escape (hquote : IsQuote quote) :
    readQuoted? quote (escape quote s ++ quote :: rest) = some (s, rest) := by
  induction s with
  | nil =>
    rw [escape_nil, List.nil_append, readQuoted?_quote]
    rintro rfl
    exact hquote (by decide)
  | cons c s ih =>
    rw [escape_cons, List.append_assoc, readQuoted?_escapeChar hquote, ih]
    rfl

/-! ## Either quote -/

/-- Reads text between quotes. The quote in front is the one that closes it. -/
def readEnclosed? : List Char → Option (List Char × List Char)
  | [] => none
  | quote :: rest => if quote = '\'' ∨ quote = '"' then readQuoted? quote rest else none

theorem isControl_digitChar (n : Nat) : isControl (Nat.digitChar (n % 16)) = false := by
  have hdigits : ∀ n < 16, isControl (Nat.digitChar n) = false := by decide
  exact hdigits _ (Nat.mod_lt n (by decide))

theorem all_escapeChar (hquote : isControl quote = false) (c : Char) :
    (escapeChar quote c).all (!isControl ·) := by
  have hbackslash : isControl '\\' = false := rfl
  have hu : isControl 'u' = false := rfl
  unfold escapeChar
  split
  · rfl
  split
  · rename_i hc
    simp [hc, hquote, hbackslash]
  split
  · rfl
  split
  · rfl
  split
  · rfl
  split
  · simp [hex4, isControl_digitChar, hbackslash, hu]
  · rename_i hplain
    simpa using hplain

/-- **Escaped text is read back and does not close its quote.** It has no control characters, and two
texts with anything after their quotes are alike only if they are the same. -/
theorem readEnclosed?_escape (hquote : quote = '\'' ∨ quote = '"') (s : List Char) :
    (∀ rest, readEnclosed? (quote :: (escape quote s ++ quote :: rest)) = some (s, rest)) ∧
      (∀ c ∈ escape quote s, isControl c = false) ∧
      ∀ rest s' rest', escape quote s ++ quote :: rest = escape quote s' ++ quote :: rest' →
        s = s' ∧ rest = rest' := by
  have hplain : IsQuote quote ∧ isControl quote = false := by
    rcases hquote with rfl | rfl
    · exact ⟨by simp [IsQuote], rfl⟩
    · exact ⟨by simp [IsQuote], rfl⟩
  have hread : ∀ s rest, readQuoted? quote (escape quote s ++ quote :: rest) = some (s, rest) :=
    fun _ _ => readQuoted?_escape hplain.1
  refine ⟨fun rest => ?_, fun c hc => ?_, fun rest s' rest' heq => ?_⟩
  · rw [readEnclosed?, if_pos hquote, hread]
  · obtain ⟨d, -, hd⟩ := List.mem_flatMap.mp hc
    simpa using List.all_eq_true.mp (all_escapeChar hplain.2 d) c hd
  · have hsame := hread s rest
    rw [heq, hread] at hsame
    obtain ⟨hs, hrest⟩ := Prod.mk.inj (Option.some.inj hsame)
    exact ⟨hs.symm, hrest.symm⟩

/-- A backslash before a quote, control characters of both ranges, and what looks like an escape. -/
theorem readEnclosed?_escape_lookalikes :
    escape '"' "\\\"it's\n\x01\u0085\\u0041".toList =
        "\\\\\\\"it's\\n\\u0001\\u0085\\\\u0041".toList ∧
      readEnclosed? ('"' :: (escape '"' "\\\"it's\n\x01\u0085\\u0041".toList ++ "\" OR \"".toList)) =
        some ("\\\"it's\n\x01\u0085\\u0041".toList, " OR \"".toList) := by
  have hread := (readEnclosed?_escape (.inr rfl) "\\\"it's\n\x01\u0085\\u0041".toList).1
  exact ⟨by decide +kernel, hread " OR \"".toList⟩

end GraphQuery.Text
