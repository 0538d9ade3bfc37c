import LineShell.Machine.Builtin.Action
import LineShell.Machine.Pattern

/-!
Commands on variables: setting, exporting, fixing and removing them, and reading a line of the
input into some of them.
-/
namespace LineShell.Machine.Builtins

open ProcessM Machine.Action

def assignments (front : ByteText) (names : List String) (c : Context) : ByteText :=
  String.join <| (names.mergeSort fun a b => a ≤ b).map fun name =>
    front ++ name ++
      (match c.bindings.find? name with
      | some value => "=" ++ quoted value
      | none => "") ++ "\n"

def markAll (mark : String → Context → Context) : List ByteText → Action
  | [] => status 0
  | arg :: rest => do
      let (name, value) ← nameAndValue arg
      if let some value := value then assign name value
      modifyContext (mark name)
      markAll mark rest

def marking (command : String) (marked : Context → List String)
    (mark : String → Context → Context) (args : List ByteText) : Action := do
  let (letters, args) ← options ['p'] args
  if letters ≠ [] ∨ args = [] then
    let c ← context
    emit (assignments (command ++ " ") (marked c) c)
  else markAll mark args

def exportVars : List ByteText → Action :=
  marking "export" (·.exported) fun name c => c.markExported name

def fixVars : List ByteText → Action :=
  marking "readonly" (·.readOnly) fun name c =>
    if c.readOnly.contains name then c else { c with readOnly := c.readOnly ++ [name] }

def unsetAll (functions : Bool) : List ByteText → Action
  | [] => status 0
  | name :: rest => do
      if functions then
        modifyContext fun c => { c with functions := c.functions.filter (·.1 ≠ name) }
      else if !isIdentifier name then throw (name ++ ": bad variable name")
      else if (← context).readOnly.contains name then throw (name ++ ": is read only")
      else
        modifyContext (·.unsetVariable name)
      unsetAll functions rest

def unset (args : List ByteText) : Action := do
  let (letters, args) ← options ['f', 'v'] args
  unsetAll (letters.getLast? = some 'f') args

/-- Keeps what a variable is, for the end of the innermost function. -/
def keep (saved : Saved) : List Task → Option (List Task)
  | [] => none
  | .endFunction params locals :: rest =>
      some (.endFunction params
        (if locals.any (·.name = saved.name) then locals else locals ++ [saved]) :: rest)
  | task :: rest => (keep saved rest).map (task :: ·)

/-- Keeps variables for the end of the function that runs, and sets them. -/
def keepAll : List ByteText → Action
  | [] => status 0
  | arg :: rest => do
      let (name, value) ← nameAndValue arg
      let p ← self
      if let some tasks := keep (p.context.save name) p.tasks then
        modifySelf fun p => { p with tasks }
      if let some value := value then assign name value
      keepAll rest

def localVars (args : List ByteText) : Action := do
  if (← self).tasks.any Task.isFunctionEnd then keepAll args else throw "not in a function"

/-- A line with its backslashes taken away, which keep what is after them, and whether it is
whole; the rest of the text comes with it. -/
def lineFrom (raw : Bool) : (done : List Marked) → List Char → List Marked × Bool × List Char
  | done, [] => (done.reverse, false, [])
  | done, c :: rest =>
      if c = '\n' then (done.reverse, true, rest)
      else if c = '\\' ∧ !raw then
        match rest with
        | [] => (done.reverse, false, [])
        | '\n' :: after => lineFrom raw done after
        | d :: after => lineFrom raw ((d, true) :: done) after
      else if c = '\x00' then lineFrom raw done rest
      else lineFrom raw ((c, false) :: done) rest

/-- The separators of fields: those that are blank, and the others. -/
structure Separators where
  blanks : List Char
  marks : List Char

namespace Separators

def ofContext (c : Context) : Separators :=
  let isBlank := fun (c : Char) => c = ' ' || c = '\t' || c = '\n'
  { blanks := c.separators.filter isBlank, marks := c.separators.filter (!isBlank ·) }

def isBlank (s : Separators) (m : Marked) : Bool :=
  !m.2 && s.blanks.contains m.1

def isMark (s : Separators) (m : Marked) : Bool :=
  !m.2 && s.marks.contains m.1

def isAny (s : Separators) (m : Marked) : Bool :=
  s.isBlank m || s.isMark m

/-- A text without the blanks at its end, and what is kept by backslashes after the first of
them goes with them. -/
def trimEnd (s : Separators) (text : List Marked) : List Marked :=
  let ending := (text.reverse.takeWhile fun m => m.2 || s.isBlank m).reverse
  text.take (text.length - ending.length) ++ ending.takeWhile (·.2)

/-- Whether a text after a separator only ends the field before it: blanks, what is kept by
backslashes, and one mark when the separator was a blank that nothing kept stands behind. -/
def isEnding (s : Separators) : (afterBlank : Bool) → List Marked → Bool
  | _, [] => true
  | afterBlank, m :: rest =>
      if m.2 then s.isEnding false rest
      else if s.isBlank m then s.isEnding afterBlank rest
      else s.isMark m && afterBlank && s.isEnding false rest

/-- The last field, which holds the rest of a line; a separator that only ends it goes. -/
def lastField (s : Separators) (text : List Marked) : List Marked :=
  let field := text.takeWhile (!s.isAny ·)
  match text.drop field.length with
  | [] => field
  | m :: rest => if s.isEnding (s.isBlank m) rest then field else s.trimEnd text

/-- Goes past a separator: blanks, and one mark among them. -/
def pass (s : Separators) (text : List Marked) : List Marked :=
  match text.dropWhile s.isBlank with
  | m :: rest => if s.isMark m then rest.dropWhile s.isBlank else m :: rest
  | [] => []

/-- Gives each name a field, and the last one the rest. -/
def distribute (s : Separators) : List String → List Marked → List (String × ByteText)
  | [], _ => []
  | [name], text => [(name, String.ofList ((s.lastField text).map (·.1)))]
  | name :: names, text =>
      let field := text.takeWhile (!s.isAny ·)
      (name, String.ofList (field.map (·.1))) ::
        s.distribute names (s.pass (text.drop field.length))

end Separators

def assignAll : List (String × ByteText) → ExceptT ByteText ProcessM Unit
  | [] => pure ()
  | (name, value) :: rest => do
      assign name value
      assignAll rest

/-- Takes a line and puts its fields into variables. A line without an end counts as failed. -/
def takeLine (handle : Handle) (raw : Bool) (names : List String) : Action := do
  match (← files).ahead handle with
  | .error _ => status 1
  | .ok ahead => do
      let text := (ByteText.ofBytes ahead).toList
      let (line, whole, rest) := lineFrom raw [] text
      changeStorage (·.skip handle (ahead.length - rest.length))
      let separators := Separators.ofContext (← context)
      assignAll (separators.distribute names (line.dropWhile separators.isBlank))
      status (if whole then 0 else 1)

/-- The letters of one word of options, up to a prompt, which is the rest of the word. Whether the
line is to be taken as it is, and whether the prompt is the next word. -/
def readLetters (raw : Bool) : List Char → Except ByteText (Bool × Bool)
  | [] => .ok (raw, false)
  | 'r' :: rest => readLetters true rest
  | 'p' :: rest => .ok (raw, rest.isEmpty)
  | c :: _ => .error ("Illegal option -" ++ c.toString)

/-- The options of a reading: whether the line is to be taken as it is. Prompts are for terminals
only. The names of variables come after them. -/
def readingOptions (raw : Bool) : List ByteText → Except ByteText (Bool × List ByteText)
  | [] => .ok (raw, [])
  | arg :: rest =>
      match arg.toList with
      | ['-', '-'] => .ok (raw, rest)
      | '-' :: c :: more => do
          let (raw, isNext) ← readLetters raw (c :: more)
          match isNext, rest with
          | false, rest => readingOptions raw rest
          | true, [] => .error "No arg for -p option"
          | true, _ :: rest => readingOptions raw rest
      | _ => .ok (raw, arg :: rest)

def read (args : List ByteText) : Action := do
  match readingOptions false args with
  | .error problem => throw problem
  | .ok (raw, names) => do
      if names = [] then throw "arg count"
      for name in names do
        if !isIdentifier name then throw (name ++ ": bad variable name")
      match (← context).descriptors.lookup 0 with
      | none => status 1
      | some handle => later [.readLine handle raw names]

end LineShell.Machine.Builtins
