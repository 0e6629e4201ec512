import Fleet.Text.Octets

/-!
# Quoting in messages

Messages of tools show names of files and other texts between quotes, or show names of files as a
script would have to write them. Octets that cannot be printed are written as numbers.
-/

namespace Fleet.Tools.Quoting

/-- Whether an octet can be printed. -/
def isPrintable (c : Char) : Bool :=
  ' ' ≤ c && c ≤ '~'

/-- The number of an octet as three octal digits after a backslash. -/
def octal (c : Char) : Octets :=
  let n := c.toNat
  '\\' :: [n / 64 % 8, n / 8 % 8, n % 8].map fun d => Char.ofNat ('0'.toNat + d)

/-- The letter that a control character is written with. -/
def letter? : Char → Option Char
  | '\x07' => some 'a'
  | '\x08' => some 'b'
  | '\t' => some 't'
  | '\n' => some 'n'
  | '\x0B' => some 'v'
  | '\x0C' => some 'f'
  | '\r' => some 'r'
  | _ => none

/-- An octet between the given quotes. -/
def escaped (quote c : Char) : Octets :=
  match letter? c with
  | some l => ['\\', l]
  | none =>
    if c = quote || c = '\\' then ['\\', c]
    else if isPrintable c then [c]
    else octal c

/-- A text between single quotes. -/
def value (text : Octets) : Octets :=
  '\'' :: text.flatMap (escaped '\'') ++ ['\'']

/-- Characters that a script has to quote anywhere in a name. -/
def special : Octets :=
  " !\"$&()*;<=>[^`|'\\".toList

/-- Whether a script has to quote a name; perhaps some more characters are quoted. -/
def needsQuotes (also : Octets) (name : Octets) : Bool :=
  name.isEmpty || name.any (fun c => !isPrintable c || special.contains c || also.contains c) ||
    name.head? == some '#' || name.head? == some '~' || name == ['\x7b'] || name == ['\x7d']

/-- The octets of a name between single quotes as a script writes them; `outside` says whether the
last octet was written as a number. -/
def scripted (outside : Bool) : Octets → Octets
  | [] => ['\'']
  | c :: rest =>
    if isPrintable c then
      let start : Octets := if outside && c != '\'' then ['\'', '\''] else []
      let own : Octets := if c = '\'' then ['\'', '\\', '\''] ++ ['\''] else [c]
      start ++ own ++ scripted false rest
    else
      let start : Octets := if outside then [] else ['\'', '$', '\'']
      let own : Octets := match letter? c with
        | some l => ['\\', l]
        | none => octal c
      start ++ own ++ scripted true rest

/-- Whether a name with an apostrophe looks good between double quotes. -/
def suitsDoubleQuotes (name : Octets) : Bool :=
  name.contains '\'' && name.all fun c =>
    c == ' ' || c == '\'' || c == '#' || c == '~' ||
      (isPrintable c && !special.contains c)

/-- The name of a file between quotes. -/
def name (file : Octets) : Octets :=
  if suitsDoubleQuotes file then '"' :: file ++ ['"']
  else '\'' :: scripted false file

/-- The name of a file in front of a colon: between quotes only if a script has to quote it. -/
def lead (file : Octets) : Octets :=
  if needsQuotes [':'] file then name file else file

end Fleet.Tools.Quoting
