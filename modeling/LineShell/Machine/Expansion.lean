import LineShell.Machine.Arithmetic
import LineShell.Machine.Context
import LineShell.Machine.Pattern

/-!
Words of a script as texts: parameters, the output of commands and arithmetic are put in, what was
put in outside quotes is cut into fields, and patterns become the names of files.

The output of a command is not known before it has run. Expansion is a function of the outputs
known so far; it stops at the first that is missing, and is done again once there is one more.
-/
namespace LineShell.Machine

/-- A stretch of a word. -/
structure Segment where
  text : ByteText
  quoted : Bool

/-- What a fragment of a word becomes: a stretch, values to be cut into fields, or values of which
each is a field of its own. -/
inductive Part where
  | fixed (segment : Segment)
  | divisible (values : List ByteText)
  | each (values : List ByteText)

structure Expander where
  context : Context
  tree : FileTree
  /-- The outputs of commands that are known and not used yet. -/
  outputs : List ByteText

/-- Why an expansion stops: the output of a script is needed, or something is wrong. -/
inductive Hold where
  | output (line : Nat) (source : ByteText)
  | problem (text : ByteText)

abbrev ExpandM := ExceptT Hold (StateM Expander)

namespace Expansion

def context : ExpandM Context := do
  pure (← get).context

def modifyContext (change : Context → Context) : ExpandM Unit :=
  modify fun e => { e with context := change e.context }

def fail (text : ByteText) : ExpandM α :=
  throw (.problem text)

def valuePart (quoted : Bool) (value : ByteText) : List Part :=
  if quoted then [.fixed ⟨value, true⟩] else [.divisible [value]]

/-- What stands between arguments that are put together. -/
def separator (c : Context) : ByteText :=
  match c.separators with
  | [] => ""
  | s :: _ => s.toString

/-- Parts that are not cut, as stretches. -/
def segmentsOf (c : Context) (parts : List Part) : List Segment :=
  parts.map fun part =>
    match part with
    | .fixed segment => segment
    | .divisible values => ⟨(separator c).intercalate values, false⟩
    | .each values => ⟨(separator c).intercalate values, true⟩

/-- The text of parts that are not cut. -/
def textOf (c : Context) (parts : List Part) : ByteText :=
  String.join ((segmentsOf c parts).map (·.text))

def marked (segments : List Segment) : List Marked :=
  segments.flatMap fun s => s.text.toList.map (·, s.quoted)

def allParams (name : String) (quoted : Bool) : ExpandM (List Part) := do
  let c ← context
  pure <|
    if !quoted then [.divisible c.params]
    else if name = "*" then valuePart true ((separator c).intercalate c.params)
    else [.each c.params]

def setTo (name : String) (value : ByteText) : ExpandM Unit := do
  if (← context).readOnly.contains name then fail (name ++ ": is read only")
  modifyContext (·.setVariable name value)

/-- Refuses a parameter without a value, where an option asks for that. -/
def checkSet (name : String) (value : Option ByteText) : ExpandM Unit := do
  if value.isNone ∧ (← context).hasOption 'u' then fail (name ++ ": parameter not set")

def home? (c : Context) (owner : List Char) : Option ByteText :=
  if owner = [] then c.bindings.find? "HOME"
  else if owner = "root".toList then some "/root" else none

/-- Where in a word the names of home directories stand: nowhere, at the front, or in a list, after
colons and perhaps at the front. -/
inductive Homes where
  | nowhere
  | front
  | list (front : Bool)

def Homes.next : Homes → Homes
  | .list _ => .list false
  | _ => .nowhere

/-- A bare text with home directories put in. A name must not go on after the text. -/
def withHomes (c : Context) (homes : Homes) (last : Bool) (text : ByteText) : List Part :=
  let (pieces, front) := match homes with
    | .nowhere => ([text.toList], false)
    | .front => ([text.toList], true)
    | .list front => (Text.fields ':' text.toList, front)
  let places := pieces.zipIdx.map fun (piece, i) =>
    let owner := (piece.drop 1).takeWhile (· ≠ '/')
    let tail := piece.drop (1 + owner.length)
    let isWhole := tail ≠ [] ∨ i + 1 < pieces.length ∨ last
    let home := if piece.head? = some '~' ∧ (front ∨ 0 < i) ∧ isWhole then home? c owner else none
    let found := match home with
      | some home => [⟨home, home ≠ ""⟩, ⟨String.ofList tail, false⟩]
      | none => [⟨String.ofList piece, false⟩]
    if i = 0 then found else ⟨":", false⟩ :: found
  places.flatten.map .fixed

def divided (parts : List Part) : List Part :=
  parts.map fun part =>
    match part with
    | .fixed ⟨text, false⟩ => .divisible [text]
    | part => part

mutual

def parts (homes : Homes) : List Fragment → ExpandM (List Part)
  | [] => pure []
  | fragment :: rest => do
      let first ← partsOf homes rest.isEmpty fragment
      pure (first ++ (← parts homes.next rest))

def partsOf (homes : Homes) (last : Bool) : Fragment → ExpandM (List Part)
  | .text text true => pure [.fixed ⟨text, true⟩]
  | .text text false => do pure (withHomes (← context) homes last text)
  | .command line source quoted => do
      match (← get).outputs with
      | [] => throw (.output line source)
      | output :: outputs => do
          modify fun e => { e with outputs }
          pure (valuePart quoted output)
  | .arithmetic expression quoted => do
      let expression ← parts .nowhere expression
      let text := textOf (← context) expression
      match Arithmetic.evaluate text (← context).bindings with
      | .error problem => fail problem
      | .ok (value, bindings) => do
          modifyContext fun c => { c with bindings }
          pure (valuePart quoted (toString value))
  | .parameter name operation emptyToo word quoted => do
      let c ← context
      let value :=
        if name = "*" ∧ quoted then some ((separator c).intercalate c.params)
        else c.parameter? name
      let present := value.filter fun value => !(emptyToo && value = "")
      let isAll := name = "@" ∨ name = "*"
      let shown := fun (value : ByteText) =>
        if isAll then allParams name quoted else pure (valuePart quoted value)
      let standIn := if quoted then id else divided
      let inner := match homes with
        | .list _ => .list true
        | _ => .front
      match operation, value, present with
      | .unknown, _, _ => fail "Bad substitution"
      | .length, value, _ => do
          unless isAll do checkSet name value
          let text := if isAll then (separator c).intercalate c.params else value.getD ""
          let length := toString text.length
          pure (if name = "@" ∧ quoted then [.each [length]] else valuePart quoted length)
      | .value, some value, _ => shown value
      | .value, none, _ =>
          if isAll then allParams name quoted
          else do
            checkSet name value
            pure (if quoted then valuePart true "" else [])
      | .fallback, _, some value => shown value
      | .fallback, _, none => standIn <$> parts inner word
      | .assign, _, some value => shown value
      | .assign, _, none => do
          let value := textOf c (← parts .front word)
          if isIdentifier name then setTo name value else fail (name ++ ": bad variable name")
          pure (valuePart quoted value)
      | .require, _, some value => shown value
      | .require, _, none => do
          let text := textOf c (← parts .front word)
          fail <| name ++ ": " ++
            if text ≠ "" then text
            else "parameter not set" ++ if emptyToo then " or null" else ""
      | .replace, _, some _ => standIn <$> parts inner word
      | .replace, _, none => pure (if quoted then [] else [.divisible []])
      | .cutFront _, none, _ | .cutBack _, none, _ => do
          checkSet name value
          pure (if quoted then valuePart true "" else [])
      | .cutFront longest, some value, _ => do
          let pattern := Pattern.ofMarked (marked (segmentsOf c (← parts .front word)))
          let text := Pattern.cutFront longest pattern value.toList
          pure (valuePart quoted (String.ofList text))
      | .cutBack longest, some value, _ => do
          let pattern := Pattern.ofMarked (marked (segmentsOf c (← parts .front word)))
          let text := Pattern.cutBack longest pattern value.toList
          pure (valuePart quoted (String.ofList text))

end

def text (word : Word) : ExpandM ByteText := do
  let parts ← parts .front word
  pure (textOf (← context) parts)

/-- The same for the value of a variable, which may be a list of paths. -/
def variableText (word : Word) : ExpandM ByteText := do
  let parts ← parts (.list true) word
  pure (textOf (← context) parts)

def pattern (word : Word) : ExpandM Pattern := do
  let parts ← parts .front word
  pure (Pattern.ofMarked (marked (segmentsOf (← context) parts)))

/-- Fields under construction, the newest first, and the one that is open, its newest stretch
first. -/
structure Fields where
  done : List (List Segment) := []
  current : Option (List Segment) := none
  /-- Whether the values put in last were fields of their own. -/
  afterEach : Bool := false

namespace Fields

def extend (f : Fields) (segment : Segment) : Fields :=
  { f with current := some (segment :: f.current.getD []) }

/-- Adds a stretch that without a text is nothing. -/
def extendBy (f : Fields) (quoted : Bool) (text : ByteText) : Fields :=
  if text = "" then f else f.extend ⟨text, quoted⟩

def endField (f : Fields) : Fields :=
  { f with done := (f.current.getD []).reverse :: f.done, current := none }

/-- A blank, or what stands between values: no value holds that character itself. -/
def isBlank (c : Char) : Bool :=
  c = ' ' || c = '\t' || c = '\n' || c = '\x00'

/-- Cuts characters into fields, after the newest `chars`. Blanks count as one separator together
with one mark after them, and none at the front; right after fields of their own each one ends a
field as a mark does. -/
def divide (separators : List Char) (f : Fields) (afterBlank : Bool) (chars : List Char) :
    List Char → Fields
  | [] => f.extendBy false (String.ofList chars.reverse)
  | c :: rest =>
      let blank := isBlank c && !f.afterEach
      if !('\x00' :: separators).contains c then f.divide separators false (c :: chars) rest
      else if afterBlank then f.divide separators blank [] rest
      else
        let f := f.extendBy false (String.ofList chars.reverse)
        if blank ∧ f.current.isNone then f.divide separators false [] rest
        else f.endField.divide separators blank [] rest

def add (separators : List Char) (f : Fields) : Part → Fields
  | .fixed segment => if segment.quoted then f.extend segment else f.extendBy false segment.text
  | .divisible values =>
      let chars := (values.map (·.toList)).intersperse ['\x00'] |>.flatten
      { f.divide separators false [] chars with afterEach := false }
  | .each [] => f
  | .each (first :: others) =>
      let f := others.foldl (fun f value => f.endField.extendBy true value) (f.extendBy true first)
      { f with afterEach := true }

/-- All fields. The last one counts when something stands in it, and after fields of their own. -/
def all (f : Fields) : List (List Segment) :=
  (if f.current.isSome ∨ f.afterEach then f.endField else f).done.reverse

end Fields

/-- The names in a directory, with the two that stand for it and the one above. -/
def namesIn (tree : FileTree) (id : NodeId) : List ByteText :=
  match tree.nodes[id]? with
  | some (.directory _ entries _) => "." :: ".." :: entries.map fun entry => ByteText.encode entry.1
  | _ => []

/-- Names that are hidden match only patterns that begin with their dot. -/
def matchesName (pattern : Pattern) (name : ByteText) : Bool :=
  pattern.accepts name.toList &&
    (name.toList.head? ≠ some '.' || pattern.head? = some (.exact '.'))

def find? (tree : FileTree) (here : NodeId) (path : ByteText) : Option NodeId := do
  (tree.find { directory := here } (← ByteText.decode? path)).toOption

/-- The paths that match patterns for their parts, after the part of a path that is done. -/
def pathsAfter (tree : FileTree) (here : NodeId) : (done : ByteText) →
    List (List Marked) → List ByteText
  | done, [] => if (find? tree here done).isSome then [done] else []
  | done, part :: rest =>
      let pattern := Pattern.ofMarked part
      let names := if pattern.isProper then
          match find? tree here (if done = "" then "." else done) with
          | some id => (namesIn tree id).filter (matchesName pattern)
          | none => []
        else [String.ofList (part.map (·.1))]
      names.flatMap fun name =>
        pathsAfter tree here (done ++ name ++ if rest.isEmpty then "" else "/") rest

/-- The parts of a marked text between its slashes. -/
def slashParts (text : List Marked) : List (List Marked) :=
  text.foldr (fun marked parts =>
    if marked.1 = '/' then [] :: parts
    else
      match parts with
      | [] => [[marked]]
      | first :: others => (marked :: first) :: others) [[]]

/-- The texts that a field stands for: the paths that it matches, if it is a pattern for some. -/
def fieldTexts (tree : FileTree) (c : Context) (field : List Segment) : List ByteText :=
  let whole := String.join (field.map (·.text))
  let isSpecial := fun (s : Segment) =>
    !s.quoted && s.text.toList.any fun c => c = '*' || c = '?' || c = '['
  if c.hasOption 'f' ∨ !field.any isSpecial then [whole]
  else
    if (Pattern.ofMarked (marked field)).isProper then
      match pathsAfter tree c.directory "" (slashParts (marked field)) with
      | [] => [whole]
      | paths => paths.mergeSort fun a b => a ≤ b
    else [whole]

def wordFields (word : Word) : ExpandM (List ByteText) := do
  let parts ← parts .front word
  let e ← get
  let separators := e.context.separators
  let fields := (parts.foldl (Fields.add separators) {}).all
  pure (fields.flatMap (fieldTexts e.tree e.context))

def fields : List Word → ExpandM (List ByteText)
  | [] => pure []
  | word :: rest => do
      let first ← wordFields word
      pure (first ++ (← fields rest))

end Expansion

end LineShell.Machine
