import FieldGraph.Text.Printable

/-!
# Quoted text

Messages show foreign text between double quotes. Quotes and backslashes are escaped, the
common controls have short escapes, other unprintable characters are written as their code
point in hexadecimal, and everything printable stands for itself.
-/

namespace FieldGraph.Text

/-- A hexadecimal digit in lower case. -/
def hexDigit (n : Nat) : Char :=
  if n < 10 then Char.ofNat ('0'.toNat + n) else Char.ofNat ('a'.toNat + (n - 10))

/-- The last `width` hexadecimal digits of a natural. -/
def hexChars : Nat → Nat → List Char
  | 0, _ => []
  | width + 1, n => hexChars width (n / 16) ++ [hexDigit (n % 16)]

/-- Hexadecimal text of fixed width. -/
def hex (width n : Nat) : String := String.ofList (hexChars width n)

/-- How one character stands inside quotes. -/
def quoteChar (c : Char) : List Char :=
  if c = '"' then ['\\', '"']
  else if c = '\\' then ['\\', '\\']
  else if isPrintable c then [c]
  else if c = '\n' then ['\\', 'n']
  else if c = '\t' then ['\\', 't']
  else if c = '\r' then ['\\', 'r']
  else if c.toNat = 7 then ['\\', 'a']
  else if c.toNat = 8 then ['\\', 'b']
  else if c.toNat = 11 then ['\\', 'v']
  else if c.toNat = 12 then ['\\', 'f']
  else if c.toNat < 32 || c.toNat = 127 then '\\' :: 'x' :: hexChars 2 c.toNat
  else if c.toNat < 0x10000 then '\\' :: 'u' :: hexChars 4 c.toNat
  else '\\' :: 'U' :: hexChars 8 c.toNat

/-- A text between double quotes. -/
def quote (s : String) : String :=
  String.ofList ('"' :: (s.toList.flatMap quoteChar ++ ['"']))

end FieldGraph.Text
