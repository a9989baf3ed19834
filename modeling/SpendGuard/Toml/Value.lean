import SpendGuard.Binary64

/-!
# TOML values

What a TOML document holds: texts, 64-bit integers, binary floating point numbers, truth values,
dates and times, arrays and tables. Dates and times are kept as their standard text, since
nothing reckons with them.
-/

namespace SpendGuard

namespace Toml

/-- A value of a document. -/
inductive Value where
  | text (s : String)
  | int (i : Int)
  | real (x : Binary64)
  | bool (b : Bool)
  /-- A date, a time or both, in standard text. -/
  | moment (s : String)
  | array (items : List Value)
  | table (entries : List (String × Value))

/-! ### Characters -/

/-- The blanks within a line. -/
def isBlank (c : Char) : Bool := c = ' ' || c = '\t'

/-- The characters that may stand in texts and comments: all but control characters, of which
only the tab is allowed. -/
def isTextChar (c : Char) : Bool := c = '\t' || (' ' ≤ c && c ≤ '~') || 0x80 ≤ c.toNat

/-- The characters of a key without quotation marks. -/
def isBareChar (c : Char) : Bool := c.isAlphanum || c = '-' || c = '_'

end Toml

end SpendGuard
