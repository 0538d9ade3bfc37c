import LineShell.Text.Blank
import LineShell.Text.Split

/-!
Reading the words after a program's name as flags and operands. Short flags may share a word; a
long flag may carry its value after an equals sign; after two dashes every word is an operand.
-/
namespace LineShell

/-- Why arguments were refused: they do not fit the usage, or a value is not of its kind. -/
inductive UsageError where
  | misuse (problem usage : String)
  | badValue (value kind argument : String)
  deriving DecidableEq, Repr

namespace UsageError

def message : UsageError → String
  | .misuse problem usage => problem ++ "\n\n" ++ usage
  | .badValue value kind argument =>
      "Could not deserialize '" ++ value ++ "' to " ++ kind ++ " for '" ++ argument ++ "'."

def causes : UsageError → List String
  | .misuse problem _ => [problem]
  | .badValue .. => []

end UsageError

namespace Usage

structure Flag where
  short : Option Char := none
  long : Option String := none
  valued : Bool := false
  deriving DecidableEq, Repr

/-- The flags of a command line with their values, and its operands, each in order. -/
structure Arguments where
  flags : List (Flag × Option String) := []
  operands : List String := []
  deriving DecidableEq, Repr

namespace Arguments

def count (arguments : Arguments) (flag : Flag) : Nat :=
  arguments.flags.countP (·.1 = flag)

def has (arguments : Arguments) (flag : Flag) : Bool :=
  arguments.count flag != 0

def value? (arguments : Arguments) (flag : Flag) : Option String :=
  (arguments.flags.find? (·.1 = flag)).bind (·.2)

end Arguments

/-- Changes of one character, insertions and deletions from one text to another, row by row. -/
def editDistance (a b : List Char) : Nat :=
  let row := a.foldl
    (fun (above : List Nat) c =>
      let step := fun (left, done) (d, (corner, up)) =>
        let cell := min (min (left + 1) (up + 1)) (if c = d then corner else corner + 1)
        (cell, done ++ [cell])
      let start := above.headD 0 + 1
      (((b.zip (above.zip above.tail)).foldl step (start, [start])).2))
    (List.range (b.length + 1))
  row.getLastD 0

/-- The long flag that differs from the word in fewer than three places, the nearest first. -/
def suggestion? (flags : List Flag) (word : String) : Option String :=
  let names := flags.filterMap fun flag => flag.long.map ("--" ++ ·)
  let nearer := fun (best : Option (String × Nat)) name =>
    let distance := editDistance word.toList name.toList
    match best with
    | some (_, least) => if distance < least then some (name, distance) else best
    | none => if distance < 3 then some (name, distance) else none
  (names.foldl nearer none).map (·.1)

def unknownFlag (flags : List Flag) (word : String) : String :=
  "Unknown flag: '" ++ word ++ "'" ++
    match suggestion? flags word with
    | some name => ". Did you mean '" ++ name ++ "'?"
    | none => ""

/-- A word of short flags: one dash, and no blank after the character that follows it. -/
def isShortWord : List Char → Bool
  | '-' :: c :: rest => c != '-' && !rest.any Text.isBlank
  | _ => false

/-- A word that is a long flag: two dashes and no blank, unless in a value on one line. -/
def isLongWord : List Char → Bool
  | '-' :: '-' :: rest =>
      let name := rest.takeWhile (!Text.isBlank ·)
      !rest.isEmpty &&
        (name.length = rest.length || (name.tail.contains '=' && !rest.contains '\n'))
  | _ => false

/-- Words read so far; `waiting` is a flag whose value is the next word. -/
structure Reading where
  arguments : Arguments := {}
  waiting : Option (Flag × String) := none
  operandsOnly : Bool := false

namespace Reading

def give (r : Reading) (flag : Flag) (value : Option String) : Reading :=
  { r with
    waiting := none
    arguments := { r.arguments with flags := r.arguments.flags ++ [(flag, value)] } }

def operand (r : Reading) (word : String) : Reading :=
  { r with arguments := { r.arguments with operands := r.arguments.operands ++ [word] } }

/-- The short flags of one word; one with a value takes the rest of the word. -/
def shorts (known : List Flag) (r : Reading) : List Char → Except String Reading
  | [] => .ok r
  | c :: rest =>
      let name := String.ofList ['-', c]
      match known.find? (·.short = some c) with
      | none => .error (unknownFlag known name)
      | some flag =>
          if !flag.valued then (r.give flag none).shorts known rest
          else if rest.isEmpty then .ok { r with waiting := some (flag, name) }
          else .ok (r.give flag (some (String.ofList rest)))

def long (known : List Flag) (r : Reading) (word : List Char) : Except String Reading :=
  let (name, value) := match Text.cut? '=' word with
    | some (name, value) => (String.ofList name, some (String.ofList value))
    | none => (String.ofList word, none)
  match known.find? (·.long.map ("--" ++ ·) = some name), value with
  | none, _ => .error (unknownFlag known name)
  | some flag, some value =>
      if flag.valued then .ok (r.give flag (some value))
      else .error ("Flag '" ++ name ++ "' cannot have an argument, but found '" ++ value ++ "'.")
  | some flag, none =>
      if flag.valued then .ok { r with waiting := some (flag, name) } else .ok (r.give flag none)

def word (known : List Flag) (r : Reading) (text : String) : Except String Reading :=
  match r.waiting with
  | some (flag, _) => .ok (r.give flag (some text))
  | none =>
      if r.operandsOnly then .ok (r.operand text)
      else if text = "--" then .ok { r with operandsOnly := true }
      else if isShortWord text.toList then r.shorts known text.toList.tail
      else if isLongWord text.toList then r.long known text.toList
      else .ok (r.operand text)

def finish (r : Reading) : Except String Arguments :=
  match r.waiting with
  | some (_, name) =>
      .error ("Expected argument for flag '" ++ name ++ "' but reached end of arguments.")
  | none => .ok r.arguments

end Reading

/-- The flags and operands of a list of words, or the first thing wrong with it. -/
def read (known : List Flag) (words : List String) : Except String Arguments :=
  match words.foldlM (Reading.word known) {} with
  | .ok reading => reading.finish
  | .error problem => .error problem

/-- What is wrong when no usage pattern fits. -/
def noPattern : String := "Invalid arguments."

end Usage

end LineShell
