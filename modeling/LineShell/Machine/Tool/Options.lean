import LineShell.Machine.ByteText
import LineShell.Text.Split

/-!
Options among the arguments of a program: letters after a dash, several of them together, or words
after two dashes, which may be cut short. Two dashes alone end the options.
-/
namespace LineShell.Machine

/-- The letters that a program knows, and the words, each with the letter that it stands for. -/
structure Options where
  letters : List Char
  words : List (String × Char)

namespace Options

def ofWord (options : Options) (word : ByteText) : Except ByteText Char :=
  let (name, hasValue) := match Text.cut? '=' word.toList with
    | some (name, _) => (String.ofList name, true)
    | none => (word, false)
  let found : List (String × Char) := match options.words.filter (·.1 = name) with
    | [] => options.words.filter fun (full, _) => name.toList.isPrefixOf full.toList
    | exact => exact
  match found with
  | [] => .error ("unrecognized option '--" ++ word ++ "'")
  | [(full, letter)] =>
      if hasValue then .error ("option '--" ++ full ++ "' doesn't allow an argument")
      else .ok letter
  | several =>
      .error <| "option '--" ++ word ++ "' is ambiguous; possibilities:" ++
        String.join (several.map fun (full, _) => " '--" ++ full ++ "'")

def ofLetters (options : Options) (letters : List Char) : Except ByteText (List Char) :=
  match letters.find? (!options.letters.contains ·) with
  | some letter => .error ("invalid option -- '" ++ letter.toString ++ "'")
  | none => .ok letters

def read (options : Options) : List ByteText → Except ByteText (List Char × List ByteText)
  | [] => .ok ([], [])
  | arg :: rest =>
      match arg.toList with
      | ['-', '-'] => .ok ([], rest)
      | '-' :: '-' :: word => do
          let letter ← options.ofWord (String.ofList word)
          let (letters, operands) ← options.read rest
          pure (letter :: letters, operands)
      | '-' :: c :: more => do
          let first ← options.ofLetters (c :: more)
          let (letters, operands) ← options.read rest
          pure (first ++ letters, operands)
      | _ => do
          let (letters, operands) ← options.read rest
          pure (letters, arg :: operands)

end Options

end LineShell.Machine
