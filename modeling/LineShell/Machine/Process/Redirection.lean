import LineShell.Machine.Builtin.Control
import LineShell.Machine.Expansion

/-!
Redirections of a command: for each its target is known, and an open file is put under a
descriptor, or a descriptor is closed.
-/
namespace LineShell.Machine

/-- What is wrong with a redirection: its file cannot be opened, or it makes no sense, which ends
the script. -/
inductive Misdirection where
  | failed (problem : ByteText)
  | senseless (problem : ByteText)

namespace Redirect

open ProcessM

def openPath (creating : Bool) (path : ByteText)
    (act : Viewpoint → String → Storage → Except IoError Handle × Storage) :
    ProcessM (Except Misdirection (Option Handle)) := do
  let view ← viewpoint
  let opened ← match ByteText.decode? path with
    | some name => withStorage (act view name)
    | none => pure (.error (.os .noEntry))
  match opened with
  | .ok handle => pure (.ok (some handle))
  | .error e =>
      let verb := if creating then "create " else "open "
      pure (.error (.failed ("cannot " ++ verb ++ path ++ ": " ++ Builtins.openProblem creating e)))

def openText (text : ByteText) : ProcessM (Option Handle) := do
  let (reading, writing) ← withStorage fun s =>
    let (reading, writing, s) := s.openPipe
    ((reading, writing), s)
  let _ ← withStorage (·.write writing (ByteText.toBytes text))
  pure (some reading)

/-- The descriptor that a text means, or nothing at all; nothing if it makes no sense as that. -/
def descriptor? (text : ByteText) : Option (Option Nat) :=
  match text.toList with
  | ['-'] => some none
  | [digit] => if digit.isDigit then some (some (digit.toNat - 48)) else none
  | _ => none

def senselessText : ByteText := "Syntax error: Bad fd number"

/-- The open file of a redirection; none stands for a descriptor to be closed. -/
def openTarget (kind : RedirectKind) (text : ByteText) :
    ProcessM (Except Misdirection (Option Handle)) := do
  match kind with
  | .input => openPath false text fun view path s => s.openForReading view path
  | .output forced => do
      let c ← context
      if !forced ∧ c.hasOption 'C' ∧ Builtins.isRegular (← files) c text then
        pure (.error (.failed ("cannot create " ++ text ++ ": File exists")))
      else openPath true text fun view path s => s.openForWriting .write view path
  | .append => openPath true text fun view path s => s.openForWriting .append view path
  | .both => openPath true text fun view path s => s.openForWriting .both view path
  | .document => do
      pure (.ok (← openText text))
  | .duplicate =>
      match descriptor? text with
      | none => pure (.error (.senseless senselessText))
      | some none => pure (.ok none)
      | some (some n) =>
          match (← context).descriptors.lookup n with
          | some handle => pure (.ok (some handle))
          | none => pure (.error (.failed (text ++ ": " ++ OsError.badDescriptor.text)))

/-- What the word of a redirection has become: a text, or, for a document, perhaps a problem, which
keeps its command from being run. -/
abbrev Target := Except ByteText ByteText

/-- Makes redirections in turn, as long as they can be made. Where descriptors are `kept` for later,
one that should become the same as another is put away before that one is looked at. -/
def makeAll (kept : Bool) : List (Redirect × Target) → ProcessM (Option Misdirection)
  | [] => pure none
  | (_, .error problem) :: _ => pure (some (.failed problem))
  | (redirect, .ok text) :: rest => do
      match ← openTarget redirect.kind text with
      | .error (.senseless problem) => pure (some (.senseless problem))
      | .error (.failed problem) => do
          if kept ∧ redirect.kind = .duplicate then
            modifyContext (·.closeDescriptor redirect.descriptor)
          pure (some (.failed problem))
      | .ok handle? => do
          modifyContext fun c =>
            match handle? with
            | some handle => c.setDescriptor redirect.descriptor handle
            | none => c.closeDescriptor redirect.descriptor
          makeAll kept rest

def documentTarget (word : Word) : ExpandM Target :=
  tryCatch (Except.ok <$> Expansion.text word) fun hold =>
    match hold with
    | .problem text => pure (.error text)
    | hold => throw hold

def targets : List Redirect → ExpandM (List (Redirect × Target))
  | [] => pure []
  | redirect :: rest => do
      let target ← match redirect.kind with
        | .document => documentTarget redirect.target
        | _ => Except.ok <$> Expansion.text redirect.target
      pure ((redirect, target) :: (← targets rest))

def settle : List Redirect → ExpandM (List Redirect)
  | [] => pure []
  | redirect :: rest => do
      let settled ← match redirect.kind with
        | .document => pure redirect
        | _ => do pure { redirect with target := [.text (← Expansion.text redirect.target) true] }
      pure (settled :: (← settle rest))

/-- Whether a redirection whose target is known makes sense. -/
def isSensible (redirect : Redirect) : Bool :=
  match redirect.kind, redirect.target with
  | .duplicate, [.text text true] => (descriptor? text).isSome
  | _, _ => true

end Redirect

end LineShell.Machine
