import LineShell.Machine.Script.Words

/-!
A script as tokens. Each carries the line it ends on; the last one is the end of the script, or
what keeps it from being read. The text of a document comes after the line that asks for it, and is
put where its mark stood.
-/
namespace LineShell.Machine

inductive Token where
  | word (word : Word)
  | operator (text : String)
  | redirect (descriptor : Nat) (kind : RedirectKind)
  | newline
  | finish
  /-- Text that is no token, with what is wrong with it. -/
  | broken (problem : String)

structure Lexeme where
  token : Token
  line : Nat

namespace Token

def isNewline : Token → Bool
  | .newline => true
  | _ => false

def isFinish : Token → Bool
  | .finish => true
  | _ => false

def isOperator (token : Token) (text : String) : Bool :=
  match token with
  | .operator found => found = text
  | _ => false

/-- An operator at the front of a text, with the number of its characters. -/
def operator? : List Char → Option (Token × Nat)
  | '&' :: '&' :: _ => some (.operator "&&", 2)
  | '&' :: _ => some (.operator "&", 1)
  | '|' :: '|' :: _ => some (.operator "||", 2)
  | '|' :: _ => some (.operator "|", 1)
  | ';' :: ';' :: _ => some (.operator ";;", 2)
  | ';' :: _ => some (.operator ";", 1)
  | '(' :: _ => some (.operator "(", 1)
  | ')' :: _ => some (.operator ")", 1)
  | _ => none

/-- A redirection at the front of a text, with the number of its characters. The descriptor is the
usual one unless it is given. -/
def redirect? (descriptor : Option Nat) : List Char → Option (Token × Nat)
  | '<' :: '<' :: '-' :: _ => some (.redirect (descriptor.getD 0) .document, 3)
  | '<' :: '<' :: _ => some (.redirect (descriptor.getD 0) .document, 2)
  | '<' :: '&' :: _ => some (.redirect (descriptor.getD 0) .duplicate, 2)
  | '<' :: '>' :: _ => some (.redirect (descriptor.getD 0) .both, 2)
  | '<' :: _ => some (.redirect (descriptor.getD 0) .input, 1)
  | '>' :: '>' :: _ => some (.redirect (descriptor.getD 1) .append, 2)
  | '>' :: '&' :: _ => some (.redirect (descriptor.getD 1) .duplicate, 2)
  | '>' :: '|' :: _ => some (.redirect (descriptor.getD 1) (.output true), 2)
  | '>' :: _ => some (.redirect (descriptor.getD 1) (.output false), 1)
  | _ => none

/-- A redirection with or without a descriptor, with the number of its characters. -/
def anyRedirect? : List Char → Option (Token × Nat)
  | c :: rest =>
      if c.isDigit then
        (redirect? (some (c.toNat - 48)) rest).map fun (token, n) => (token, n + 1)
      else redirect? none (c :: rest)
  | [] => none

end Token

/-- A document that was asked for: the place of its mark among the tokens, the line that ends it,
whether tabs before its lines go, and whether it is taken as it is. -/
structure Wanted where
  place : Nat
  mark : List Char
  untabbed : Bool
  literal : Bool

/-- A text on its way to tokens. -/
structure Tokenizing where
  lexemes : Array Lexeme := #[]
  line : Nat
  wanted : List Wanted := []
  /-- Whether the next word is the mark of a document, and whether it goes untabbed. -/
  mark : Option Bool := none

namespace Tokenizing

def add (t : Tokenizing) (token : Token) : Tokenizing :=
  { t with lexemes := t.lexemes.push ⟨token, t.line⟩ }

def addBroken (t : Tokenizing) (misread : Misread) : Tokenizing :=
  { t with lexemes := t.lexemes.push ⟨.broken misread.problem, misread.line⟩ }

def markText (word : Word) : List Char :=
  word.flatMap fun fragment =>
    match fragment with
    | .text text _ => text.toList
    | _ => []

def isLiteral (word : Word) : Bool :=
  word.any fun fragment =>
    match fragment with
    | .text _ quoted => quoted
    | _ => false

def addWord (t : Tokenizing) (word : Word) : Tokenizing :=
  match t.mark with
  | none => t.add (.word word)
  | some untabbed =>
      let wanted : Wanted :=
        { place := t.lexemes.size, mark := markText word, untabbed, literal := isLiteral word }
      { t.add (.word word) with wanted := t.wanted ++ [wanted], mark := none }

/-- A document, with the number of its lines and of the one that ends it, if that is there, and
the text after it. -/
structure Document where
  text : List Char
  lines : Nat
  complete : Bool
  rest : List Char

/-- The document at the front of a text, up to the line that is its mark. -/
def documentOf (untabbed : Bool) (mark : List Char) : (fuel : Nat) → List Char → Document
  | 0, rest => { text := [], lines := 0, complete := false, rest }
  | _ + 1, [] => { text := [], lines := 0, complete := false, rest := [] }
  | fuel + 1, text =>
      let line := text.takeWhile (· ≠ '\n')
      let after := text.drop line.length
      let line := if untabbed then line.dropWhile (· = '\t') else line
      if line = mark then { text := [], lines := 1, complete := true, rest := after.tail }
      else
        let others := documentOf untabbed mark fuel after.tail
        { others with text := line ++ after.take 1 ++ others.text, lines := others.lines + 1 }

/-- A word that cannot be read in a document. What is open when the document ends is found open on
the line after it, or at the end of the script if it is a script itself. -/
def misreadIn (document : Document) (endLine : Nat) (misread : Misread) : Lexeme :=
  let problem := Words.problemInDocument misread
  let runsOn := problem = Words.missingParenthesis || problem = Words.missingBackquote
  let line :=
    if runsOn then endLine else misread.line + if document.complete then 1 else 0
  ⟨.broken problem, line⟩

def document (fuel : Nat) (t : Tokenizing) (wanted : Wanted) (text : List Char) :
    Tokenizing × List Char :=
  let document := documentOf wanted.untabbed wanted.mark fuel text
  let change := fun (lexeme : Lexeme) =>
    if wanted.literal then
      { lexeme with token := .word [.text (String.ofList document.text) true] }
    else
      match Words.scan t.line fuel .document {} document.text with
      | .ok (draft, _) => { lexeme with token := .word draft.word }
      | .error misread => misreadIn document (t.line + Words.countNewlines text) misread
  ({ t with
    lexemes := t.lexemes.modify wanted.place change
    line := t.line + document.lines }, document.rest)

/-- Reads the documents that were asked for, after the line that did. -/
def documents (fuel : Nat) (t : Tokenizing) (text : List Char) : Tokenizing × List Char :=
  let read := fun (t, text) wanted => document fuel t wanted text
  t.wanted.foldl read ({ t with wanted := [] }, text)

def run : (fuel : Nat) → Tokenizing → List Char → Array Lexeme
  | 0, t, _ | _ + 1, t, [] => (t.documents 1 []).1.add .finish |>.lexemes
  | fuel + 1, t, c :: rest =>
      if c = ' ' ∨ c = '\t' then run fuel t rest
      else if c = '\\' ∧ rest.head? = some '\n' then
        run fuel { t with line := t.line + 1 } rest.tail
      else if c = '#' then run fuel t (rest.dropWhile (· ≠ '\n'))
      else if c = '\n' then
        let t := { t with line := t.line + 1 }
        let (t, rest) := documents fuel (t.add .newline) rest
        run fuel t rest
      else
        match Token.operator? (c :: rest) with
        | some (token, n) => run fuel (t.add token) ((c :: rest).drop n)
        | none =>
            match Token.anyRedirect? (c :: rest) with
            | some (token, n) =>
                let mark := match token with
                  | .redirect _ .document => some (((c :: rest).drop (n - 1)).head? = some '-')
                  | _ => none
                run fuel { t.add token with mark } ((c :: rest).drop n)
            | none =>
                match Words.scan t.line fuel .bare {} (c :: rest) with
                | .error misread => (t.addBroken misread).lexemes
                | .ok (draft, rest) =>
                    let t := t.addWord draft.word
                    run fuel { t with line := t.line + draft.newlines } rest

end Tokenizing

def Token.ofText (line : Nat) (text : ByteText) : List Lexeme :=
  (Tokenizing.run (text.length + 2) { line } text.toList).toList

end LineShell.Machine
