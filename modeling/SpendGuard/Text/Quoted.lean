import SpendGuard.Text.GraphemeExtend
import SpendGuard.Text.Printable

/-!
# Quoted text

A text between quotation marks, for messages that show a piece of data. Nothing invisible gets
through: backslash, quotation mark and the common controls have short escapes, and every other
character that is unprintable, or would join the one before it, is shown by its code point in
hexadecimal.
-/

namespace SpendGuard

namespace Text

/-- A code point in lower-case hexadecimal, in braces. -/
def codePoint (c : Char) : List Char :=
  "\\u\x7b".toList ++ Nat.toDigits 16 c.toNat ++ ['\x7d']

/-- How one character is shown between quotation marks. -/
def quoteChar (c : Char) : List Char :=
  if c = '\x00' then ['\\', '0']
  else if c = '\t' then ['\\', 't']
  else if c = '\r' then ['\\', 'r']
  else if c = '\n' then ['\\', 'n']
  else if c = '\\' then ['\\', '\\']
  else if c = '"' then ['\\', '"']
  else if ' ' ≤ c && c ≤ '~' then [c]
  else if isGraphemeExtend c || !isPrintable c then codePoint c
  else [c]

/-- The text between quotation marks. -/
def quoted (s : String) : String :=
  String.ofList ('"' :: s.toList.flatMap quoteChar ++ ['"'])

end Text

end SpendGuard
