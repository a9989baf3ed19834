import SpendGuard.Command.Form

/-!
# Explanations

What the program says about itself and its commands when it is asked: what a command does, how
to write it, and a table of its words and switches.
-/

namespace SpendGuard

namespace Usage

/-- Rows of two columns, the second one aligned. -/
def table (rows : List (String × String)) : List String :=
  let width := rows.foldl (fun w r => max w r.1.length) 0
  rows.map fun r =>
    "  " ++ r.1 ++ String.ofList (List.replicate (width + 2 - r.1.length) ' ') ++ r.2

/-- A part of an explanation with a heading, unless it is empty; a blank line comes before. -/
def part (heading : String) (rows : List (String × String)) : List String :=
  if rows.isEmpty then [] else ["", heading] ++ table rows

/-- A switch with its full name, and with what stands for its value. -/
def fullName (s : Switch) : String :=
  "--" ++ s.name ++ (if s.purpose.hasValue then " <" ++ s.name.toUpper ++ ">" else "")

/-- A switch with all its names; those without a letter are aligned with the others. -/
def names (s : Switch) : String :=
  match s.letter with
  | some c => "-" ++ c.toString ++ ", " ++ fullName s
  | none => "    " ++ fullName s

/-- The table of the switches of a form. -/
def switches (f : Form) : List String :=
  part "Options:" (f.switches.map fun s => (names s, s.about))

/-- How the switches and words of a form are written. -/
def pattern (f : Form) : String :=
  let required := (f.switches.filter (·.required)).map fullName
  " ".intercalate (["[OPTIONS]"] ++ required ++ f.words.map fun w => "<" ++ w.1 ++ ">")

/-- What is said about the whole program. -/
def ofProgram : List String :=
  let f := Form.program
  [f.about, "", "Usage: " ++ f.name ++ " " ++ pattern f]
    ++ part "Commands:" (Form.all.map fun c => (c.name, c.about))
    ++ switches f

/-- What is said about a command; that of explanations takes any number of words. -/
def ofCommand (f : Form) : List String :=
  let (pattern, shown) :=
    if f = Form.help then
      ("[COMMAND]...", f.words.map fun w => ("[" ++ w.1 ++ "]...", w.2))
    else (pattern f, f.words.map fun w => ("<" ++ w.1 ++ ">", w.2))
  [f.about, "", "Usage: " ++ Form.program.name ++ " " ++ f.name ++ " " ++ pattern]
    ++ part "Arguments:" shown
    ++ switches f

end Usage

end SpendGuard
