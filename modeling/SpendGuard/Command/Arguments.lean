import SpendGuard.Command.Form
import SpendGuard.Setting

/-!
# Command line arguments

Switches of the whole program come before the command, those of a command after it; a switch is
given at most once unless it collects texts. The value of a switch is attached to it or is the
next argument, which then has to be a word. After two hyphens alone, everything is a word.

Arguments are read from left to right, and the first one that makes no sense or asks for an
explanation ends the reading.
-/

namespace SpendGuard

namespace Arguments

/-- Why reading ends before all arguments are read. -/
inductive Stop where
  /-- The arguments make no sense. -/
  | wrong
  /-- An explanation of the program, or of a command, is asked for. -/
  | help (topic : Option Form)
  /-- The version is asked for. -/
  | version
deriving DecidableEq

/-! ### One argument -/

/-- What an argument is. -/
inductive Item where
  /-- A word. -/
  | word
  /-- Two hyphens alone. -/
  | separator
  /-- A switch, and the value attached to it. -/
  | switch (s : Switch) (attached : Option String)
  /-- Nothing that is understood. -/
  | unknown

/-- What is attached after an equals sign, if there is one. -/
def afterEquals : List Char → Option String
  | '=' :: value => some (String.ofList value)
  | _ => none

/-- What an argument is, given the switches that are understood. What follows the letter of a
switch without a value is not looked at. -/
def item (switches : List Switch) (argument : String) : Item :=
  match argument.toList with
  | ['-', '-'] => .separator
  | '-' :: '-' :: cs =>
    let name := String.ofList (cs.takeWhile (· ≠ '='))
    match switches.find? (·.name = name) with
    | some s => .switch s (afterEquals (cs.dropWhile (· ≠ '=')))
    | none => .unknown
  | '-' :: c :: cs =>
    match switches.find? (·.letter = some c) with
    | some s =>
      if !s.purpose.hasValue || cs.isEmpty then .switch s none
      else .switch s (some ((afterEquals cs).getD (String.ofList cs)))
    | none => .unknown
  | _ => .word

/-- Whether an argument can be the value of the switch before it. -/
def isWord (argument : String) : Bool := argument = "-" || argument.toList.head? ≠ some '-'

/-- The amount that a text spells. -/
def amount? (text : String) : Option Amount :=
  (Setting.integerText? ['+'] text).bind Setting.amountOfInt?

/-- Whether a text is a value for a purpose. -/
def suits (purpose : Purpose) (value : String) : Bool :=
  purpose ≠ .amount || (amount? value).isSome

/-! ### All arguments -/

/-- What has been read: the values of switches and the words, in order. A switch that has no
value counts as having an empty one. -/
structure Reading where
  /-- Values, with the names of their switches. -/
  values : List (String × String)
  /-- Words. -/
  words : List String
deriving DecidableEq

namespace Reading

/-- Nothing read. -/
def empty : Reading := ⟨[], []⟩

/-- A value added. -/
def withValue (r : Reading) (name value : String) : Reading :=
  { r with values := r.values ++ [(name, value)] }

/-- Words added. -/
def withWords (r : Reading) (words : List String) : Reading :=
  { r with words := r.words ++ words }

/-- The values of a switch. -/
def valuesOf (r : Reading) (name : String) : List String :=
  (r.values.filter fun v => v.1 = name).map (·.2)

/-- The first value of a switch. -/
def valueOf? (r : Reading) (name : String) : Option String := (r.valuesOf name).head?

/-- Whether a switch has been given. -/
def has (r : Reading) (name : String) : Bool := !(r.valuesOf name).isEmpty

end Reading

/-- Reads the arguments that a form understands, after what has been read; the form of the
program ends with the first word, that of a command with the last argument. What is left of the
arguments comes with the reading. -/
def scan (f : Form) (topic : Option Form) (r : Reading) :
    List String → Except Stop (Reading × List String)
  | [] => .ok (r, [])
  | a :: rest =>
    match item f.switches a with
    | .unknown => .error .wrong
    | .word =>
      if topic.isNone then .ok (r, a :: rest)
      else if r.words.length < f.words.length then scan f topic (r.withWords [a]) rest
      else .error .wrong
    | .separator =>
      if topic.isNone then .ok (r, a :: rest)
      else if r.words.length + rest.length ≤ f.words.length then .ok (r.withWords rest, [])
      else .error .wrong
    | .switch s attached =>
      if s.purpose.hasValue then
        if r.has s.name && s.purpose ≠ .texts then .error .wrong
        else match attached, rest with
          | some value, rest =>
            if suits s.purpose value then scan f topic (r.withValue s.name value) rest
            else .error .wrong
          | none, value :: rest =>
            if isWord value && suits s.purpose value then
              scan f topic (r.withValue s.name value) rest
            else .error .wrong
          | none, [] => .error .wrong
      else if attached.isSome then .error .wrong
      else match s.purpose with
        | .help => .error (.help topic)
        | .version => .error .version
        | _ => if r.has s.name then .error .wrong else scan f topic (r.withValue s.name "") rest

/-! ### Commands -/

/-- The classification that has been read. -/
def classify? (r : Reading) : Option Command := do
  let target ← r.valueOf? "target"
  let value ← match r.valueOf? "value" with
    | none => some 0
    | some text => amount? text
  let accounts := (r.valuesOf "accounts").flatMap fun v => v.splitOn ","
  return .classify target value (r.valueOf? "data") accounts

/-- The simulation that has been read. -/
def simulate? (r : Reading) : Option Command := do
  let scenario ← r.words.head?
  return .simulate scenario (r.has "save")

/-- The command of a form that has been read. -/
def command? (f : Form) (r : Reading) : Option Command :=
  if f = Form.config then some .config
  else if f = Form.status then some .status
  else if f = Form.classify then classify? r
  else if f = Form.simulate then simulate? r
  else none

/-- The explanation that words ask for: that of the program or of one command. -/
def explanation : List String → Stop
  | [] => .help none
  | [name] => match Form.named? name with
    | some f => .help (some f)
    | none => .wrong
  | _ => .wrong

/-- The command that a word and the arguments after it describe. -/
def command (word : String) (rest : List String) : Except Stop Command :=
  match Form.named? word with
  | none => .error .wrong
  | some f =>
    if f = Form.help then .error (explanation rest)
    else match scan f (some f) .empty rest with
      | .error stop => .error stop
      | .ok (r, _) =>
        match command? f r with
        | some c => .ok c
        | none => .error .wrong

/-- What the arguments of the program ask for. -/
def read (arguments : List String) : Except Stop Invocation :=
  match scan Form.program none .empty arguments with
  | .error stop => .error stop
  | .ok (_, []) => .error .wrong
  | .ok (r, word :: rest) =>
    (command word rest).map fun c =>
      ⟨(r.valueOf? "config").getD Invocation.standardConfiguration, c⟩

end Arguments

end SpendGuard
