import LineShell.Machine.Tool.Write

/-!
Escapes in the texts that the command language writes. They are letters, or numbers of up to three
octal digits; in an argument, as opposed to a format, a zero may stand before those, and one letter
ends all output.
-/
namespace LineShell.Machine.Escape

/-- What follows a backslash: the character that is meant, and the text after it. A backslash
before anything else stands for itself. -/
def read (text : List Char) : Char × List Char :=
  match text with
  | [] => ('\\', [])
  | c :: rest =>
      if Text.isOctal c then
        let ds := Echoing.digits Text.isOctal 3 text
        (Echoing.byte 8 ds, text.drop ds.length)
      else
        match Echoing.control? c with
        | some d => (d, rest)
        | none => ('\\', text)

/-- An argument with its escapes replaced, the newest character first, and whether it was cut. -/
def replaceFrom : (fuel : Nat) → (done : List Char) → List Char → List Char × Bool
  | 0, done, _ | _ + 1, done, [] => (done, false)
  | fuel + 1, done, '\\' :: rest =>
      match rest with
      | 'c' :: _ => (done, true)
      | '0' :: d :: after =>
          let (c, rest) := read (if Text.isOctal d then d :: after else rest)
          replaceFrom fuel (c :: done) rest
      | _ =>
          let (c, rest) := read rest
          replaceFrom fuel (c :: done) rest
  | fuel + 1, done, c :: rest => replaceFrom fuel (c :: done) rest

/-- An argument with its escapes replaced, and whether it ends all output. -/
def replace (text : ByteText) : ByteText × Bool :=
  let (chars, cut) := replaceFrom (text.length + 1) [] text.toList
  (String.ofList chars.reverse, cut)

/-- Texts with blanks between them, up to the first that ends all output. -/
def replaceAll : List ByteText → ByteText × Bool
  | [] => ("", false)
  | [text] => replace text
  | text :: rest =>
      match replace text with
      | (text, true) => (text, true)
      | (text, false) =>
          let (others, cut) := replaceAll rest
          (text ++ " " ++ others, cut)

end LineShell.Machine.Escape
