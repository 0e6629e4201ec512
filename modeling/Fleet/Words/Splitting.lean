/-!
# Splitting a line into words

A line is split at blanks outside quotes. Between single quotes every character stands for itself;
between double quotes a backslash escapes a dollar sign, a backquote, a double quote, a backslash
and a line end, and elsewhere it escapes any character; an escaped line end is dropped. A `#` at
the start of a word begins a comment. Quotes that are never closed and a backslash at the very
end make the line unsplittable.
-/

namespace Fleet.Words

/-- Where a reader of words stands. The word so far is kept with its last character first. -/
inductive Position : Type where
  /-- Between two words. -/
  | between
  /-- In a comment. -/
  | comment
  /-- In a word, outside quotes. -/
  | bare (word : List Char)
  /-- After a backslash outside quotes. -/
  | escaped (word : List Char)
  /-- Between single quotes. -/
  | single (word : List Char)
  /-- Between double quotes. -/
  | double (word : List Char)
  /-- After a backslash between double quotes. -/
  | doubleEscaped (word : List Char)
  deriving Repr, DecidableEq

/-- A blank that separates words. -/
def isSeparator (c : Char) : Bool :=
  c == ' ' || c == '\t' || c == '\n'

/-- A character that a backslash escapes between double quotes. -/
def isEscapable (c : Char) : Bool :=
  c == '$' || c == '`' || c == '"' || c == '\\'

/-- The position after one character of a word, outside quotes. -/
def afterBare (word : List Char) (c : Char) : Position :=
  if c = '"' then .double word
  else if c = '\'' then .single word
  else if c = '\\' then .escaped word
  else .bare (c :: word)

/-- The position after one character between double quotes. -/
def afterDouble (word : List Char) (c : Char) : Position :=
  if c = '"' then .bare word
  else if c = '\\' then .doubleEscaped word
  else .double (c :: word)

/-- The word that is kept with its last character first. -/
def toWord (word : List Char) : String :=
  String.ofList word.reverse

/-- The words of the rest of a line, read from a position. -/
def splitFrom : Position → List Char → Option (List String)
  | .between, [] => some []
  | .comment, [] => some []
  | .bare word, [] => some [toWord word]
  | _, [] => none
  | .between, c :: rest =>
    if isSeparator c then splitFrom .between rest
    else if c = '#' then splitFrom .comment rest
    else splitFrom (afterBare [] c) rest
  | .comment, c :: rest => splitFrom (if c = '\n' then .between else .comment) rest
  | .bare word, c :: rest =>
    if isSeparator c then (splitFrom .between rest).map (toWord word :: ·)
    else splitFrom (afterBare word c) rest
  | .escaped word, c :: rest => splitFrom (.bare (if c = '\n' then word else c :: word)) rest
  | .single word, c :: rest =>
    splitFrom (if c = '\'' then .bare word else .single (c :: word)) rest
  | .double word, c :: rest => splitFrom (afterDouble word c) rest
  | .doubleEscaped word, c :: rest =>
    if isEscapable c then splitFrom (.double (c :: word)) rest
    else if c = '\n' then splitFrom (.double word) rest
    else splitFrom (.double (c :: '\\' :: word)) rest

/-- The words of a line, if its quotes are closed. -/
def split? (line : String) : Option (List String) :=
  splitFrom .between line.toList

end Fleet.Words
