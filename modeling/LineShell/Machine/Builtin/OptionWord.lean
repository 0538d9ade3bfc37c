import LineShell.Machine.Builtin.Action

/-!
Reading options off the arguments of a script, one letter at a time. How far this has come is kept
between the readings.
-/
namespace LineShell.Machine.Builtins

open ProcessM Machine.Action

/-- Whether an option takes an argument; nothing if it is none of those in the list, where a colon
stands after the letters that do. -/
def takesArgument? (letter : Char) : List Char → Option Bool
  | [] => none
  | c :: ':' :: rest => if c = letter then some true else takesArgument? letter rest
  | c :: rest => if c = letter then some false else takesArgument? letter rest

/-- The letters that come next, and the place after the word that they stand in; nothing if there
are no more options. -/
def lettersAhead (words : List ByteText) (place : OptionPlace) : Option (List Char) × OptionPlace :=
  let open_ := match place.offset, place.index with
    | some offset, index + 2 => ((words[index]?).getD "").toList.drop offset
    | _, _ => []
  if open_ ≠ [] then (some open_, place)
  else
    let after : OptionPlace := { index := place.index + 1 }
    match ((words[place.index - 1]?).getD "").toList with
    | ['-', '-'] => (none, after)
    | '-' :: c :: rest => (some (c :: rest), after)
    | _ => (none, { index := place.index })

def found (name : String) (letter : Char) (place : OptionPlace) (so : Nat) : Action := do
  modifyContext fun c =>
    { c with
      bindings := c.bindings.set "OPTIND" (toString place.index)
      optionPlace := place }
  if !isIdentifier name then throw (name ++ ": bad variable name")
  assign name letter.toString
  status so

/-- Reports a letter that cannot be taken as an option: to the script, if it asks for that. -/
def unfit (quiet : Bool) (name : String) (letter shown : Char) (problem : ByteText)
    (place : OptionPlace) : Action := do
  if quiet then
    assign "OPTARG" letter.toString
    found name shown place 0
  else
    complain problem
    modifyContext (·.unsetVariable "OPTARG")
    found name '?' place 0

def nextOption : List ByteText → Action
  | spec :: name :: given => do
      let c ← context
      let words := if given = [] then c.params else given
      let start := if words.length + 1 < c.optionPlace.index then {} else c.optionPlace
      let quiet := spec.toList.head? = some ':'
      match lettersAhead words start with
      | (some (letter :: rest), place) =>
          let word := (words[place.index - 2]?).getD ""
          let within := { place with offset := some (word.length - rest.length) }
          match takesArgument? letter spec.toList with
          | none => unfit quiet name letter '?' ("Illegal option -" ++ letter.toString) within
          | some false => do
              assign "OPTARG" ""
              found name letter within 0
          | some true =>
              let beyond := { place with offset := none }
              match rest, words[place.index - 1]? with
              | [], none =>
                  let problem := "No arg for -" ++ letter.toString ++ " option"
                  unfit quiet name letter ':' problem beyond
              | [], some word => do
                  assign "OPTARG" word
                  found name letter { beyond with index := place.index + 1 } 0
              | rest, _ => do
                  assign "OPTARG" (String.ofList rest)
                  found name letter beyond 0
      | (_, place) => found name '?' place 1
  | _ => throw "Usage: getopts optstring var [arg...]"

end LineShell.Machine.Builtins
