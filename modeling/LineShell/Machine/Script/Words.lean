import LineShell.Machine.Script
import LineShell.Text.Split

/-!
Words of a script, read from its text. Quotes may stand anywhere in a word, and what a dollar sign
begins may hold words, and whole scripts, of its own.
-/
namespace LineShell.Machine

/-- Where in a word the text is, which tells what has a meaning there and what ends it. -/
inductive Region where
  | bare
  | quoted
  /-- Between the braces of a parameter. -/
  | braced (quoted : Bool)
  /-- An arithmetic expression, with so many parentheses open. -/
  | expression (depth : Nat)
  /-- The text of a document. -/
  | document
  deriving DecidableEq

def Region.isQuoted : Region → Bool
  | .bare | .braced false => false
  | _ => true

/-- A word under construction: its fragments and the characters after them, the newest first, and
the number of newlines passed. -/
structure Draft where
  fragments : List Fragment := []
  chars : List Char := []
  quoted : Bool := false
  newlines : Nat := 0

namespace Draft

def close (d : Draft) : Draft :=
  match d.chars with
  | [] => d
  | chars =>
      { d with
        fragments := .text (String.ofList chars.reverse) d.quoted :: d.fragments, chars := [] }

def char (d : Draft) (c : Char) (quoted : Bool) : Draft :=
  let d := if d.quoted = quoted then d else { d.close with quoted }
  { d with chars := c :: d.chars, newlines := if c = '\n' then d.newlines + 1 else d.newlines }

def fragment (d : Draft) (f : Fragment) : Draft :=
  let d := d.close
  { d with fragments := f :: d.fragments }

def pass (d : Draft) (newlines : Nat) : Draft :=
  { d with newlines := d.newlines + newlines }

def word (d : Draft) : Word :=
  d.close.fragments.reverse

/-- Whether fragments stand for the arguments of a script, of which there may be none. -/
def isParams : List Fragment → Bool
  | [.parameter "@" .value ..] => true
  | _ => false

/-- Takes what stands between quotes, which leaves a trace even if it becomes nothing. -/
def enclose (d inner : Draft) : Draft :=
  let fragments := inner.close.fragments
  { d.close with
    fragments :=
      fragments ++ (if isParams fragments then [] else [.text "" true]) ++ d.close.fragments
    newlines := d.newlines + inner.newlines }

end Draft

/-- Where a script cannot be read, and why. -/
structure Misread where
  line : Nat
  problem : String

namespace Words

def isDelimiter (c : Char) : Bool :=
  c = ' ' || c = '\t' || c = '\n' || c = ';' || c = '&' || c = '|' || c = '<' || c = '>' ||
    c = '(' || c = ')'

def isNameStart (c : Char) : Bool :=
  c.isAlpha || c = '_'

def isNamePart (c : Char) : Bool :=
  c.isAlphanum || c = '_'

def isSpecial (c : Char) : Bool :=
  c = '@' || c = '*' || c = '#' || c = '?' || c = '$' || c = '!' || c = '-' || c = '0'

def countNewlines (text : List Char) : Nat :=
  text.foldl (fun n c => if c = '\n' then n + 1 else n) 0

/-- What is open around a place in a script that ends at a parenthesis. -/
inductive Nesting where
  | parenthesis
  | single
  | double
  | comment
  /-- Alternatives, where a parenthesis may be closed that was not opened. -/
  | cases
  deriving DecidableEq

/-- Whether a word can begin after this character. -/
def opensWord (before : List Char) : Bool :=
  match before with
  | [] => true
  | c :: _ => isDelimiter c

def startsWord (keyword text : List Char) : Bool :=
  keyword.isPrefixOf text && ((text.drop keyword.length).head?.all fun c => isDelimiter c)

/-- The script up to the parenthesis that closes it, and the text after that; `taken` is what was
passed already, the newest first. -/
def scriptBefore? (open_ : List Nesting) (taken : List Char) :
    List Char → Option (List Char × List Char)
  | [] => none
  | c :: rest =>
      match open_ with
      | .comment :: outer =>
          scriptBefore? (if c = '\n' then outer else open_) (c :: taken) rest
      | .single :: outer =>
          scriptBefore? (if c = '\'' then outer else open_) (c :: taken) rest
      | _ =>
          let inDouble := open_.head? = some .double
          if c = '\\' then
            match rest with
            | d :: rest => scriptBefore? open_ (d :: c :: taken) rest
            | [] => none
          else if c = '"' then
            scriptBefore? (if inDouble then open_.tail else .double :: open_) (c :: taken) rest
          else if inDouble then
            if c = '(' ∧ taken.head? = some '$' then
              scriptBefore? (.parenthesis :: open_) (c :: taken) rest
            else scriptBefore? open_ (c :: taken) rest
          else if c = '\'' then scriptBefore? (.single :: open_) (c :: taken) rest
          else if c = '#' ∧ opensWord taken then
            scriptBefore? (.comment :: open_) (c :: taken) rest
          else if c = '(' then scriptBefore? (.parenthesis :: open_) (c :: taken) rest
          else if c = ')' then
            match open_ with
            | [] => some (taken.reverse, rest)
            | .parenthesis :: outer => scriptBefore? outer (c :: taken) rest
            | _ => scriptBefore? open_ (c :: taken) rest
          else if opensWord taken ∧ startsWord "case".toList (c :: rest) then
            scriptBefore? (.cases :: open_) (c :: taken) rest
          else if opensWord taken ∧ open_.head? = some .cases ∧
              startsWord "esac".toList (c :: rest) then
            scriptBefore? open_.tail (c :: taken) rest
          else scriptBefore? open_ (c :: taken) rest

/-- The script up to a backquote, where backslashes before some characters go, and the text after
it. -/
def backquoted? (quoted : Bool) (taken : List Char) : List Char → Option (List Char × List Char)
  | [] => none
  | '\x60' :: rest => some (taken.reverse, rest)
  | '\\' :: c :: rest =>
      let special := c = '$' ∨ c = '\x60' ∨ c = '\\' ∨ (c = '"' ∧ quoted)
      backquoted? quoted (if special then c :: taken else c :: '\\' :: taken) rest
  | c :: rest => backquoted? quoted (c :: taken) rest

/-- What follows the name of a parameter between braces: the operation, whether it counts an empty
value as missing, and the text of its word, or that there is none. -/
def operation (text : List Char) : Operation × Bool × Bool × List Char :=
  match text with
  | '\x7d' :: rest => (.value, false, false, rest)
  | ':' :: '-' :: rest => (.fallback, true, true, rest)
  | ':' :: '=' :: rest => (.assign, true, true, rest)
  | ':' :: '?' :: rest => (.require, true, true, rest)
  | ':' :: '+' :: rest => (.replace, true, true, rest)
  | '-' :: rest => (.fallback, false, true, rest)
  | '=' :: rest => (.assign, false, true, rest)
  | '?' :: rest => (.require, false, true, rest)
  | '+' :: rest => (.replace, false, true, rest)
  | '#' :: '#' :: rest => (.cutFront true, false, true, rest)
  | '#' :: rest => (.cutFront false, false, true, rest)
  | '%' :: '%' :: rest => (.cutBack true, false, true, rest)
  | '%' :: rest => (.cutBack false, false, true, rest)
  | '\n' :: rest => (.unknown, false, true, rest)
  | rest => (.unknown, false, true, rest)

/-- The name of a parameter at the front of a text, and the text after it. -/
def parameterName? (manyDigits : Bool) (text : List Char) : Option (String × List Char) :=
  match text with
  | [] => none
  | c :: rest =>
      if isNameStart c then
        some (String.ofList (c :: rest.takeWhile isNamePart), rest.dropWhile isNamePart)
      else if c.isDigit then
        if manyDigits then
          some (String.ofList (c :: rest.takeWhile Char.isDigit), rest.dropWhile Char.isDigit)
        else some (c.toString, rest)
      else if isSpecial c then some (c.toString, rest)
      else none

/-- Whether a text begins with a name, or a special parameter and the closing brace. -/
def isLengthOf (text : List Char) : Bool :=
  match parameterName? true text with
  | some (_, '\x7d' :: _) => true
  | _ => false

/-- Whether a backslash in a region takes away the meaning of a character; elsewhere it stands for
itself. -/
def isEscapable (region : Region) (c : Char) : Bool :=
  match region with
  | .bare | .braced false => true
  | .document => c = '$' || c = '\x60' || c = '\\'
  | .braced true => c = '$' || c = '\x60' || c = '\\' || c = '"' || c = '\x7d'
  | .quoted | .expression _ => c = '$' || c = '\x60' || c = '\\' || c = '"'

/-- What is wrong with a word whose region does not end. Quotes are noticed before braces. -/
def missingEnd : Region → String
  | .quoted | .bare | .braced true => "Unterminated quoted string"
  | .document | .braced false => "Missing '\x7d'"
  | .expression _ => "Missing '))'"

def problemInDocument (misread : Misread) : String :=
  if misread.problem = missingEnd .quoted then missingEnd .document else misread.problem

/-- What is said of a script in a word that does not end. -/
def missingParenthesis : String :=
  "end of file unexpected (expecting \")\")"

def missingBackquote : String :=
  "EOF in backquote substitution"

def commandFragment (line : Nat) (d : Draft) (source : List Char) (quoted : Bool) : Draft :=
  (d.fragment (.command (line + d.newlines) (String.ofList source) quoted)).pass
    (countNewlines source)

/-- Reads a word up to the end of its region, which goes with it, or up to a delimiter, which does
not. The line is that of the beginning. -/
def scan (line : Nat) : (fuel : Nat) → Region → Draft → List Char →
    Except Misread (Draft × List Char)
  | 0, region, d, _ => .error ⟨line + d.newlines, missingEnd region⟩
  | _ + 1, region, d, [] =>
      match region with
      | .bare | .document => .ok (d, [])
      | _ => .error ⟨line + d.newlines, missingEnd region⟩
  | fuel + 1, region, d, c :: rest =>
      let quoted := region.isQuoted
      let plain := fun _ : Unit => scan line fuel region (d.char c quoted) rest
      if c = '\\' then
        match rest with
        | '\n' :: rest => scan line fuel region (d.pass 1) rest
        | e :: after =>
            if isEscapable region e then scan line fuel region (d.char e true) after
            else plain ()
        | [] => plain ()
      else if c = '\'' ∧ ¬quoted then
        match Text.cut? '\'' rest with
        | none => .error ⟨line + d.newlines + countNewlines rest, missingEnd .quoted⟩
        | some (inner, rest) =>
            let enclosed := d.enclose
              { fragments := [.text (String.ofList inner) true], newlines := countNewlines inner }
            scan line fuel region enclosed rest
      else if c = '"' then
        match region with
        | .quoted => .ok (d, rest)
        | .document | .expression _ => plain ()
        | _ =>
            match scan (line + d.newlines) fuel .quoted {} rest with
            | .error problem => .error problem
            | .ok (inner, rest) => scan line fuel region (d.enclose inner) rest
      else if c = '\x60' then
        match backquoted? quoted [] rest with
        | none =>
            .error ⟨line + d.newlines + countNewlines rest, missingBackquote⟩
        | some (source, rest) =>
            scan line fuel region (commandFragment line d source quoted) rest
      else if c = '$' then
        match rest with
        | '(' :: '(' :: after =>
            match scan (line + d.newlines) fuel (.expression 0) {} after with
            | .error problem => .error problem
            | .ok (inner, rest) =>
                let d := (d.fragment (.arithmetic inner.word quoted)).pass inner.newlines
                scan line fuel region d rest
        | '(' :: after =>
            match scriptBefore? [] [] after with
            | none =>
                .error ⟨line + d.newlines + countNewlines after, missingParenthesis⟩
            | some (source, rest) =>
                scan line fuel region (commandFragment line d source quoted) rest
        | '\x7b' :: after =>
            let (isLength, after) := match after with
              | '#' :: name => if isLengthOf name then (true, name) else (false, after)
              | _ => (false, after)
            let (name, after) := (parameterName? true after).getD ("", after)
            let (operation, emptyToo, hasWord, after) := operation after
            let operation :=
              if name = "" then .unknown else if isLength then .length else operation
            if !hasWord then
              scan line fuel region (d.fragment (.parameter name operation false [] quoted)) after
            else
              let cuts := match operation with
                | .cutFront _ | .cutBack _ => true
                | _ => false
              let inside := Region.braced (quoted && !cuts)
              match scan (line + d.newlines) fuel inside {} after with
              | .error problem => .error problem
              | .ok (inner, rest) =>
                  let f := .parameter name operation emptyToo inner.word quoted
                  scan line fuel region ((d.fragment f).pass inner.newlines) rest
        | _ =>
            match parameterName? false rest with
            | some (name, rest) =>
                scan line fuel region (d.fragment (.parameter name .value false [] quoted)) rest
            | none => plain ()
      else
        match region with
        | .bare => if isDelimiter c then .ok (d, c :: rest) else plain ()
        | .braced _ =>
            if c = '\x7d' then .ok (d, rest) else plain ()
        | .expression depth =>
            if c = '(' then scan line fuel (.expression (depth + 1)) (d.char c true) rest
            else if c = ')' then
              if 0 < depth then scan line fuel (.expression (depth - 1)) (d.char c true) rest
              else if rest.head? = some ')' then .ok (d, rest.tail)
              else plain ()
            else plain ()
        | _ => plain ()

end Words

end LineShell.Machine
