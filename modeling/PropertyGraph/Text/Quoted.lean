import PropertyGraph.Text.Printable

/-!
# Quoted texts

A message shows a text between double quotes, so that blanks and invisible characters in it can be
seen.  The quote, the backslash and the common controls have short escapes; any other character that
is not printable is written as its code point in braces.

## Main definitions

* `quotedChar` — how one character is shown.
* `quoted` — a text between quotes.
-/

namespace PropertyGraph.Text

/-- A code point in lower-case hexadecimal digits between braces, after a backslash and the letter
`u`. -/
def codePointEscape (c : Char) : List Char :=
  '\\' :: 'u' :: '{' :: Nat.toDigits 16 c.toNat ++ ['}']

/-- How one character is shown between quotes. -/
def quotedChar (c : Char) : List Char :=
  if c = '\x00' then ['\\', '0']
  else if c = '\t' then ['\\', 't']
  else if c = '\r' then ['\\', 'r']
  else if c = '\n' then ['\\', 'n']
  else if c = '"' then ['\\', '"']
  else if c = '\\' then ['\\', '\\']
  else if isPrintable c then [c]
  else codePointEscape c

/-- A text between double quotes. -/
def quoted (s : String) : String :=
  .ofList ('"' :: s.toList.flatMap quotedChar ++ ['"'])

end PropertyGraph.Text
