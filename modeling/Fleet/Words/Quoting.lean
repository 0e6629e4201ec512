/-!
# Quoting words

A word is written so that splitting the line gives it back. It is cut into chunks, each as long as
one style of quoting can carry: bare if nothing in it needs quotes, else between single quotes,
else between double quotes. A caret is only written right after an opening single quote, and a
backslash only between double quotes. A word with a NUL cannot be written.
-/

namespace Fleet.Words

/-- The styles of quoting that can carry a text. -/
structure Styles : Type where
  bare : Bool
  single : Bool
  double : Bool
  deriving Repr, DecidableEq

namespace Styles

/-- The styles that both allow. -/
def inter (a b : Styles) : Styles :=
  ⟨a.bare && b.bare, a.single && b.single, a.double && b.double⟩

/-- Whether no style is left. -/
def isEmpty (a : Styles) : Bool :=
  !a.bare && !a.single && !a.double

end Styles

/-- A character that needs no quotes. -/
def isBare (c : Char) : Bool :=
  c.isAlphanum || c == '+' || c == '-' || c == '.' || c == '/' || c == ':' || c == '@' ||
    c == ']' || c == '_'

/-- The styles that can carry a character within a chunk. -/
def stylesOf (c : Char) : Styles where
  bare := isBare c
  single := c != '\'' && c != '^' && c != '\\'
  double := c != '`' && c != '$' && c != '!' && c != '^'

/-- The styles that can carry a character at the start of a chunk. -/
def stylesOfFirst (c : Char) : Styles :=
  if c = '^' then ⟨false, true, false⟩ else stylesOf c

/-- Takes characters as long as one style can carry them together with those before. -/
def takeChunk (styles : Styles) : List Char → List Char × Styles × List Char
  | [] => ([], styles, [])
  | c :: rest =>
    let narrowed := styles.inter (stylesOf c)
    if narrowed.isEmpty then ([], styles, c :: rest)
    else
      let (chunk, final, after) := takeChunk narrowed rest
      (c :: chunk, final, after)

/-- A character between double quotes. -/
def doubleQuoteChar (c : Char) : List Char :=
  if c = '$' || c = '`' || c = '"' || c = '\\' then ['\\', c] else [c]

/-- A chunk in the first of its styles. -/
def writeChunk (styles : Styles) (chunk : List Char) : List Char :=
  if styles.bare then chunk
  else if styles.single then ['\''] ++ chunk ++ ['\'']
  else ['"'] ++ chunk.flatMap doubleQuoteChar ++ ['"']

theorem takeChunk_length_le (styles : Styles) (cs : List Char) :
    (takeChunk styles cs).2.2.length ≤ cs.length := by
  induction cs generalizing styles with
  | nil => simp [takeChunk]
  | cons c rest ih =>
    simp only [takeChunk]
    split
    · simp
    · exact Nat.le_succ_of_le (ih _)

/-- The chunks of a text, each in its style. -/
def writeChunks : List Char → List Char
  | [] => []
  | c :: rest =>
    let split := takeChunk (stylesOfFirst c) rest
    writeChunk split.2.1 (c :: split.1) ++ writeChunks split.2.2
termination_by cs => cs.length
decreasing_by
  have le := takeChunk_length_le (stylesOfFirst c) rest
  simp only [List.length_cons]
  omega

/-- A word as it is written on a line; `none` if it holds a NUL. -/
def quote? (word : String) : Option String :=
  let cs := word.toList
  if cs.isEmpty then some "''"
  else if cs.contains '\x00' then none
  else some (String.ofList (writeChunks cs))

/-- Words as a line; `none` if one of them holds a NUL. -/
def join? (words : List String) : Option String :=
  (words.mapM quote?).map (String.intercalate " ")

/-- Words as a line for people to read: quoted where they can be, else just side by side. -/
def display (words : List String) : String :=
  (join? words).getD (String.intercalate " " words)

end Fleet.Words
