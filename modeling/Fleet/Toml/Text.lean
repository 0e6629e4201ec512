import Fleet.Text.Blank

/-!
# Texts in TOML

The four kinds of quoted text: on one line or over several, with escapes or without. Each reader
takes what follows the opening quotes, and gives the text and what follows the closing ones.
-/

namespace Fleet.Toml

/-- A character that may stand for itself on a line: a tab, or anything that is no control
character of ASCII. -/
def isPlain (c : Char) : Bool :=
  c == '\t' || (0x20 ≤ c.toNat && c.toNat ≠ 0x7F)

/-- A blank within a line. -/
def isBlank (c : Char) : Bool :=
  c == ' ' || c == '\t'

/-- The value of a hexadecimal digit. -/
def hexValue? (c : Char) : Option Nat :=
  if c.isDigit then some (c.toNat - '0'.toNat)
  else if 'a' ≤ c && c ≤ 'f' then some (c.toNat - 'a'.toNat + 10)
  else if 'A' ≤ c && c ≤ 'F' then some (c.toNat - 'A'.toNat + 10)
  else none

/-- The character whose number is written in hexadecimal digits. -/
def codePoint? (digits : List Char) : Option Char := do
  let n ← digits.foldlM (fun n d => (hexValue? d).map (n * 16 + ·)) 0
  if n.isValidChar then some (Char.ofNat n) else none

/-- The character that a letter stands for after a backslash. -/
def escaped? : Char → Option Char
  | 'b' => some '\x08'
  | 't' => some '\t'
  | 'n' => some '\n'
  | 'f' => some '\x0C'
  | 'r' => some '\r'
  | 'e' => some '\x1B'
  | '"' => some '"'
  | '\\' => some '\\'
  | _ => none

/-- What was read, and what is left. -/
abbrev Read : Type :=
  List Char × List Char

/-- A character in front of what was read. -/
def prepend (c : Char) (read : Option Read) : Option Read :=
  read.map fun (text, rest) => (c :: text, rest)

/-- A text with escapes on one line. -/
def readBasic : List Char → Option Read
  | [] => none
  | '"' :: rest => some ([], rest)
  | '\\' :: 'x' :: a :: b :: rest => do prepend (← codePoint? [a, b]) (readBasic rest)
  | '\\' :: 'u' :: a :: b :: c :: d :: rest => do
    prepend (← codePoint? [a, b, c, d]) (readBasic rest)
  | '\\' :: 'U' :: a :: b :: c :: d :: e :: f :: g :: h :: rest => do
    prepend (← codePoint? [a, b, c, d, e, f, g, h]) (readBasic rest)
  | '\\' :: c :: rest => do prepend (← escaped? c) (readBasic rest)
  | c :: rest => if isPlain c then prepend c (readBasic rest) else none

/-- A text without escapes on one line. -/
def readLiteral : List Char → Option Read
  | [] => none
  | '\'' :: rest => some ([], rest)
  | c :: rest => if isPlain c then prepend c (readLiteral rest) else none

/-- Whether only blanks are left on the line, and there is a next one. -/
def endsLine (cs : List Char) : Bool :=
  match cs.dropWhile isBlank with
  | '\n' :: _ => true
  | '\r' :: '\n' :: _ => true
  | _ => false

/-- A text with escapes over several lines. A backslash at the end of a line drops the line end
and all blanks and line ends after it; `skipping` says that these are being dropped. Up to two
quotes may stand right before the closing three. -/
def readBasicLines (skipping : Bool) : List Char → Option Read
  | [] => none
  | '"' :: '"' :: '"' :: '"' :: '"' :: rest => some (['"', '"'], rest)
  | '"' :: '"' :: '"' :: '"' :: rest => some (['"'], rest)
  | '"' :: '"' :: '"' :: rest => some ([], rest)
  | '\\' :: 'x' :: a :: b :: rest => do prepend (← codePoint? [a, b]) (readBasicLines false rest)
  | '\\' :: 'u' :: a :: b :: c :: d :: rest => do
    prepend (← codePoint? [a, b, c, d]) (readBasicLines false rest)
  | '\\' :: 'U' :: a :: b :: c :: d :: e :: f :: g :: h :: rest => do
    prepend (← codePoint? [a, b, c, d, e, f, g, h]) (readBasicLines false rest)
  | '\\' :: c :: rest =>
    match escaped? c with
    | some c => prepend c (readBasicLines false rest)
    | none => if endsLine (c :: rest) then readBasicLines true rest else none
  | '\r' :: '\n' :: rest =>
    if skipping then readBasicLines true rest
    else prepend '\r' (prepend '\n' (readBasicLines false rest))
  | c :: rest =>
    if skipping && (isBlank c || c == '\n') then readBasicLines true rest
    else if isPlain c || c == '\n' then prepend c (readBasicLines false rest)
    else none

/-- A text without escapes over several lines. -/
def readLiteralLines : List Char → Option Read
  | [] => none
  | '\'' :: '\'' :: '\'' :: '\'' :: '\'' :: rest => some (['\'', '\''], rest)
  | '\'' :: '\'' :: '\'' :: '\'' :: rest => some (['\''], rest)
  | '\'' :: '\'' :: '\'' :: rest => some ([], rest)
  | '\r' :: '\n' :: rest => prepend '\r' (prepend '\n' (readLiteralLines rest))
  | c :: rest =>
    if isPlain c || c == '\n' then prepend c (readLiteralLines rest) else none

/-- The text after the line end that may follow the opening quotes. -/
def dropFirstLineEnd : List Char → List Char
  | '\n' :: rest => rest
  | '\r' :: '\n' :: rest => rest
  | cs => cs

/-- A quoted text on one line. -/
def readQuoted : List Char → Option Read
  | '"' :: rest => readBasic rest
  | '\'' :: rest => readLiteral rest
  | _ => none

/-- A quoted text of any kind. -/
def readText : List Char → Option Read
  | '"' :: '"' :: '"' :: rest => readBasicLines false (dropFirstLineEnd rest)
  | '\'' :: '\'' :: '\'' :: rest => readLiteralLines (dropFirstLineEnd rest)
  | cs => readQuoted cs

end Fleet.Toml
