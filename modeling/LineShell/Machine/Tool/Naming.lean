import LineShell.Machine.ByteText

/-!
Names in the messages of programs, written so that no byte of them can be taken for something
else. A file name is written as the command language would take it, and only if it has to be; any
other text stands between quotes, with its unusual bytes spelled out.
-/
namespace LineShell.Machine.Naming

def letter? (c : Char) : Option Char :=
  match c with
  | '\x07' => some 'a'
  | '\x08' => some 'b'
  | '\x0c' => some 'f'
  | '\n' => some 'n'
  | '\x0d' => some 'r'
  | '\t' => some 't'
  | '\x0b' => some 'v'
  | _ => none

def isPrintable (c : Char) : Bool :=
  ' ' ≤ c && c ≤ '~'

def octal (c : Char) : List Char :=
  let n := c.toNat
  ['\\', Nat.digitChar (n / 64), Nat.digitChar (n / 8 % 8), Nat.digitChar (n % 8)]

def spelled (c : Char) : List Char :=
  match letter? c with
  | some letter => ['\\', letter]
  | none => octal c

/-- Characters that have a meaning in the command language wherever they stand. -/
def isSpecial (c : Char) : Bool :=
  " !\"$&'()*;<=>?[\\^\x60|:".toList.contains c

/-- Whether a file name cannot be written as it is. -/
def needsQuotes (name : List Char) : Bool :=
  match name with
  | [] | ['\x7b'] | ['\x7d'] => true
  | first :: _ =>
      first = '#' || first = '~' || name.any fun c => isSpecial c || !isPrintable c

/-- Whether a character means itself between double quotes. -/
def isPlain (c : Char) : Bool :=
  isPrintable c && !"!\"#$&()*;<=>?[\\^\x60\x7b|\x7d~".toList.contains c

/-- Whether a file name can stand between double quotes; a comment sign or a tilde may begin it. -/
def isPlainName (name : List Char) : Bool :=
  match name with
  | [] => true
  | first :: rest => (first = '#' || first = '~' || isPlain first) && rest.all isPlain

/-- A name after its opening quote; `spelling` is whether the last byte was spelled out. -/
def quotedFrom : (spelling : Bool) → List Char → List Char
  | _, [] => ['\'']
  | spelling, c :: rest =>
      if c = '\'' then "'\\''".toList ++ quotedFrom false rest
      else if isPrintable c then
        (if spelling then ['\'', '\''] else []) ++ c :: quotedFrom false rest
      else (if spelling then [] else "'$'".toList) ++ spelled c ++ quotedFrom true rest

def quoted (name : ByteText) : ByteText :=
  let chars := name.toList
  if chars.contains '\'' ∧ isPlainName chars then "\"" ++ name ++ "\""
  else String.ofList ('\'' :: quotedFrom false chars)

def file (name : ByteText) : ByteText :=
  if needsQuotes name.toList then quoted name else name

def text (text : ByteText) : ByteText :=
  let spell := fun (c : Char) =>
    if c = '\'' ∨ c = '\\' then ['\\', c] else if isPrintable c then [c] else spelled c
  "'" ++ String.ofList (text.toList.flatMap spell) ++ "'"

end LineShell.Machine.Naming
