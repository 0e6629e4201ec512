import Fleet.Text.Octets

/-!
# Quoted texts

Texts between `$'` and a quote, in which backslashes stand for octets, and the ways in which the
rich shell quotes texts that it shows.
-/

namespace Fleet.Shell.Quoting

/-- The value of a digit, letters counting from ten. -/
def digitValue (c : Char) : Nat :=
  if c.isDigit then c.toNat - '0'.toNat else c.toLower.toNat - 'a'.toNat + 10

/-- At most so many digits of a base that a text starts with, and what follows them. -/
def digits (base most : Nat) (text : Octets) : Octets × Octets :=
  let isDigit (c : Char) : Bool := c.isAlphanum && digitValue c < base
  let found := (text.takeWhile isDigit).take most
  (found, text.drop found.length)

/-- The number that digits of a base stand for. -/
def number (base : Nat) (digits : Octets) : Nat :=
  digits.foldl (fun n c => n * base + digitValue c) 0

/-- A number in hexadecimal digits, at least so many. -/
def hexadecimal (count n : Nat) : Octets :=
  let digits := (Nat.toDigits 16 n).map Char.toUpper
  List.replicate (count - digits.length) '0' ++ digits

/-- The octet that a letter stands for after a backslash. -/
def letter? (c : Char) : Option Char :=
  [('a', '\x07'), ('b', '\x08'), ('e', '\x1B'), ('E', '\x1B'), ('f', '\x0C'), ('n', '\n'),
    ('r', '\r'), ('t', '\t'), ('v', '\x0B'), ('\\', '\\'), ('\'', '\''), ('"', '"'),
    ('?', '?')].lookup c

/-- A character of a number; one that is no octet of its own is shown by its number. -/
def character (n : Nat) : Octets :=
  if n < 128 then [Char.ofNat n]
  else if n < 0x10000 then '\\' :: 'u' :: hexadecimal 4 n
  else '\\' :: 'U' :: hexadecimal 8 n

/-- The octets that a text stands for in which backslashes stand for octets. -/
def decoded : Nat → Octets → Octets
  | 0, _ => []
  | _, [] => []
  | n + 1, '\\' :: c :: rest =>
    let numbered (base most : Nat) (make : Nat → Octets) : Octets :=
      let (found, after) := digits base most rest
      if found.isEmpty then '\\' :: c :: decoded n rest
      else make (number base found) ++ decoded n after
    match letter? c with
    | some d => d :: decoded n rest
    | none =>
      if '0' ≤ c && c ≤ '7' then
        let (found, after) := digits 8 3 (c :: rest)
        Char.ofNat (number 8 found % 256) :: decoded n after
      else if c = 'x' then numbered 16 2 fun n => [Char.ofNat n]
      else if c = 'u' then numbered 16 4 character
      else if c = 'U' then numbered 16 8 character
      else if c = 'c' then
        match rest with
        | d :: after =>
          Char.ofNat (if d = '?' then 127 else d.toUpper.toNat % 32) :: decoded n after
        | [] => ['\\', 'c']
      else '\\' :: c :: decoded n rest
  | n + 1, c :: rest => c :: decoded n rest

/-- The octets that a text stands for in which backslashes stand for octets; a NUL ends it. -/
def unescaped (text : Octets) : Octets :=
  (decoded (text.length + 1) text).takeWhile (· ≠ '\x00')

/-- An octet that cannot be shown. -/
def isHidden (c : Char) : Bool :=
  c < ' ' || '\x7F' ≤ c

/-- An octet between `$'` and a quote. -/
def escaped (c : Char) : Octets :=
  if c = '\'' || c = '\\' then ['\\', c]
  else
    match [('\x07', 'a'), ('\x08', 'b'), ('\x1B', 'E'), ('\x0C', 'f'), ('\n', 'n'), ('\r', 'r'),
        ('\t', 't'), ('\x0B', 'v')].lookup c with
    | some d => ['\\', d]
    | none =>
      if isHidden c then
        let digits := Nat.toDigits 8 c.toNat
        '\\' :: List.replicate (3 - digits.length) '0' ++ digits
      else [c]

/-- A text between `$'` and a quote. -/
def withEscapes (text : Octets) : Octets :=
  '$' :: '\'' :: (text.map escaped).flatten ++ ['\'']

/-- A text between single quotes. -/
def single (text : Octets) : Octets :=
  if text = ['\''] then ['\\', '\'']
  else '\'' :: (text.map fun c => if c = '\'' then "'\\''".toList else [c]).flatten ++ ['\'']

/-- A text between single quotes, or between `$'` and a quote if it cannot be shown otherwise. -/
def reusable (text : Octets) : Octets :=
  if text.any isHidden then withEscapes text else single text

/-- A text between double quotes, or between `$'` and a quote if it cannot be shown otherwise. -/
def double (text : Octets) : Octets :=
  if text.any isHidden then withEscapes text
  else
    let special (c : Char) : Bool := c == '"' || c == '$' || c == '`' || c == '\\'
    '"' :: (text.map fun c => if special c then ['\\', c] else [c]).flatten ++ ['"']

/-- An octet that has a meaning of its own for the shell. -/
def isSpecial (c : Char) : Bool :=
  " \t\n'\"\\|&;()<>!\x7b\x7d*[?]^$`".toList.contains c

/-- Whether a text has to be quoted to stand for itself. -/
def needsQuotes (text : Octets) : Bool :=
  text.any isSpecial || text.head? == some '~' || text.head? == some '#' ||
    (text.zip text.tail).any fun (before, c) => c == '~' && (before == '=' || before == ':')

/-- A text as it is, or quoted if it has to be. -/
def asNeeded (text : Octets) : Octets :=
  if text.any isHidden then withEscapes text
  else if needsQuotes text then single text
  else text

/-- A text with backslashes in front of what has a meaning of its own. -/
def withBackslashes (text : Octets) : Octets :=
  if text.isEmpty then "''".toList
  else if text.any isHidden then withEscapes text
  else
    let special (c : Char) : Bool := isSpecial c || c == ','
    let follows (before : Char) : Bool := before == '=' || before == ':'
    (((' ' :: text).zip text).zipIdx.map fun ((before, c), i) =>
      if special c || (i = 0 && c == '#') || (c == '~' && (i = 0 || follows before)) then ['\\', c]
      else [c]).flatten

end Fleet.Shell.Quoting
