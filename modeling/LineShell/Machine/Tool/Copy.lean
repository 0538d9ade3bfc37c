import LineShell.Machine.Process.Action
import LineShell.Machine.Tool.Naming
import LineShell.Machine.Tool.Options

/-!
Copying files to the output, one after another. Lines can be numbered and marked up on their way;
what is known of the line that is open goes from one file to the next.
-/
namespace LineShell.Machine

namespace CopyStyle

def options : Options where
  letters := "benstuvAET".toList
  words :=
    [("number-nonblank", 'b'), ("number", 'n'), ("squeeze-blank", 's'), ("show-nonprinting", 'v'),
      ("show-ends", 'E'), ("show-tabs", 'T'), ("show-all", 'A')]

def add (style : CopyStyle) (letter : Char) : CopyStyle :=
  match letter with
  | 'b' => { style with numbered := true, sparing := true }
  | 'n' => { style with numbered := true }
  | 's' => { style with squeezed := true }
  | 'v' => { style with spelled := true }
  | 'E' => { style with endsShown := true }
  | 'T' => { style with tabsShown := true }
  | 'e' => { style with spelled := true, endsShown := true }
  | 't' => { style with spelled := true, tabsShown := true }
  | 'A' => { style with spelled := true, endsShown := true, tabsShown := true }
  | _ => style

/-- Whether a copy is just the same bytes. -/
def isPlain (style : CopyStyle) : Bool :=
  style = {}

/-- A byte below 128 without the marks of a control character. -/
def control (b : UInt8) : Bytes :=
  if b < 32 then [94, b + 64] else if b = 127 then [94, 63] else [b]

/-- A byte that ends no line, as it is written. -/
def shown (style : CopyStyle) (b : UInt8) : Bytes :=
  if b = 9 then if style.tabsShown then control b else [b]
  else if !style.spelled then [b]
  else if b < 128 then control b
  else [77, 45] ++ control (b - 128)

end CopyStyle

namespace Copying

def number (c : Copying) : Bytes :=
  let digits := toString (c.line + 1)
  Bytes.ofString ("".pushn ' ' (6 - digits.length) ++ digits ++ "\t")

/-- What becomes of one byte. A return before the end of a line is shown with it. -/
def step (c : Copying) (b : UInt8) (next : Option UInt8) : Bytes × Copying :=
  let style := c.style
  if b = 10 then
    let ending : Bytes := if style.endsShown then [36, 10] else [10]
    match c.place with
    | .inLine => (ending, { c with place := .atStart 0 })
    | .atStart empty =>
        let c := { c with place := .atStart (min 2 (empty + 1)) }
        if style.squeezed ∧ 0 < empty then ([], c)
        else if style.numbered ∧ !style.sparing then
          (c.number ++ ending, { c with line := c.line + 1 })
        else (ending, c)
  else
    let body := if b = 13 ∧ style.endsShown ∧ next = some 10 then [94, 77] else style.shown b
    match c.place with
    | .inLine => (body, c)
    | .atStart _ =>
        let c := { c with place := .inLine }
        if style.numbered then (c.number ++ body, { c with line := c.line + 1 }) else (body, c)

/-- What becomes of some bytes, the newest first. -/
def stepAll (c : Copying) (written : List Bytes) : Bytes → List Bytes × Copying
  | [] => (written, c)
  | b :: rest =>
      let (bytes, c) := c.step b rest.head?
      c.stepAll (bytes :: written) rest

def render (c : Copying) (bytes : Bytes) : Bytes × Copying :=
  if c.style.isPlain then (bytes, c)
  else
    let (written, c) := c.stepAll [] bytes
    (written.reverse.flatten, c)

open ProcessM

/-- Begins to copy the files that the arguments name, or else the input. -/
def start (args : List ByteText) : ProcessM Unit := do
  match CopyStyle.options.read args with
  | .error problem => misused problem
  | .ok (letters, operands) =>
      if ((← context).descriptors.lookup 1).isNone then
        complainOf "standard output" OsError.badDescriptor.text
        setStatus 1
      else
        let style := letters.foldl CopyStyle.add {}
        let operands := if operands = [] then ["-"] else operands
        push [.copy { style, operands, usesInput := operands.contains "-" }]

def openOperand (operand : ByteText) : ProcessM (Except IoError Handle) := do
  let c ← context
  if operand = "-" then
    match c.descriptors.lookup 0 with
    | some handle => pure (.ok handle)
    | none => pure (.error (.os .badDescriptor))
  else
    match ByteText.decode? operand with
    | some path => do
        let view ← viewpoint
        withStorage (·.openForReading view path)
    | none => pure (.error (.os .noEntry))

def nextOperand (copying : Copying) (good : Bool) : ProcessM Unit :=
  push [.copy { copying with
    operands := copying.operands.tail, source := none, good := copying.good && good }]

def copyAhead (copying : Copying) (operand : ByteText) (handle : Handle) : ProcessM Unit := do
  match ← withStorage (·.read handle id) with
  | .error e => do
      complainOf (Naming.file operand) e.text
      nextOperand copying false
  | .ok [] => nextOperand copying true
  | .ok bytes => do
      let (written, copying) := copying.render bytes
      match ← writeBytes 1 written with
      | .ok _ => push [.copy copying]
      | .error e => do
          complainOf "write error" e.text
          setStatus 1

def advance (copying : Copying) : ProcessM Unit := do
  match copying.operands, copying.source with
  | [], _ => do
      if copying.usesInput ∧ ((← context).descriptors.lookup 0).isNone then
        complainOf "closing standard input" OsError.badDescriptor.text
        setStatus 1
      else setStatus (if copying.good then 0 else 1)
  | operand :: _, some handle => copyAhead copying operand handle
  | operand :: _, none =>
      match ← openOperand operand with
      | .error e => do
          let text := match e with
            | .os e => e.text
            | e => e.message
          complainOf (Naming.file operand) text
          nextOperand copying false
      | .ok handle =>
          let files ← files
          let output := (← context).descriptors.lookup 1
          if output.any (files.sameFile handle ·) then
            complainOf (Naming.file operand) "input file is output file"
            nextOperand copying false
          else push [.copy { copying with source := some handle }]

end Copying

end LineShell.Machine
