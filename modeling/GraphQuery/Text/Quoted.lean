import GraphQuery.Unicode.Ranges

/-!
# Quoted text

Inside quotes a backslash and the quote itself are written after a backslash, the common line
controls by their letters, and every other control character as `\u` and four hexadecimal digits.
-/

namespace GraphQuery.Text

/-- Whether a character is a control character (general category `Cc`). -/
def isControl (c : Char) : Bool :=
  Unicode.inRanges c.toNat [(0x00, 0x1F), (0x7F, 0x9F)]

def hex4 (n : Nat) : List Char :=
  [n / 4096 % 16, n / 256 % 16, n / 16 % 16, n % 16].map Nat.digitChar

def escapeChar (quote c : Char) : List Char :=
  if c = '\\' then ['\\', '\\']
  else if c = quote then ['\\', c]
  else if c = '\n' then ['\\', 'n']
  else if c = '\r' then ['\\', 'r']
  else if c = '\t' then ['\\', 't']
  else if isControl c then '\\' :: 'u' :: hex4 c.toNat
  else [c]

def escape (quote : Char) (s : List Char) : List Char :=
  s.flatMap (escapeChar quote)

def quoted (s : List Char) : List Char :=
  '\'' :: escape '\'' s ++ ['\'']

@[simp] theorem escape_nil (quote : Char) : escape quote [] = [] := rfl

@[simp] theorem escape_cons (quote c : Char) (s : List Char) :
    escape quote (c :: s) = escapeChar quote c ++ escape quote s := by
  simp [escape]

example : quoted "it's\n\x7f".toList = "'it\\'s\\n\\u007f'".toList := by decide +kernel

end GraphQuery.Text
