import Fleet.Shell.Pattern
import Fleet.Shell.Variables

/-!
# Fields

An expanded word is a row of cells. It is cut into fields where an expansion outside of quotes has
brought in separators, and a field with an open pattern becomes the names of the files that it
stands for.
-/

namespace Fleet.Shell

/-- An item of an expanded word. -/
inductive Cell : Type where
  /-- An octet: whether it is quoted, and whether it may separate fields. -/
  | octet (c : Char) (quoted splits : Bool)
  /-- The word is a field even if nothing else is in it. -/
  | anchor
  /-- A field ends here. -/
  | cut
  deriving Repr, DecidableEq

namespace Cell

/-- The octets of cells, with whether they are quoted. -/
def pattern (cells : List Cell) : List PatternOctet :=
  cells.filterMap fun
    | octet c quoted _ => some (c, quoted)
    | _ => none

/-- The octets of cells. -/
def octets (cells : List Cell) : Octets :=
  (pattern cells).map Prod.fst

/-- Octets from an expansion. -/
def ofExpansion (quoted : Bool) (text : Octets) : List Cell :=
  text.map fun c => octet c quoted (!quoted)

/-- Several texts from an expansion, each a field of its own. -/
def ofSeveral (quoted : Bool) (texts : List Octets) : List Cell :=
  List.intercalate [cut] (texts.map fun text =>
    (if quoted then [anchor] else []) ++ ofExpansion quoted text)

end Cell

/-- How the field that is being read ended last. -/
inductive FieldState : Type where
  /-- A field is being read. -/
  | open
  /-- No field is being read. -/
  | closed
  /-- A blank has ended a field; a separator that is no blank may still belong to it. -/
  | closedByBlank
  deriving Repr, DecidableEq

/-- The fields of cells, given the separators. The current field is kept with its last octet
first. -/
def splitFields (separators : Octets) : FieldState → List PatternOctet → List Cell →
    List (List PatternOctet)
  | .open, field, [] => [field.reverse]
  | _, _, [] => []
  | state, field, .anchor :: rest => splitFields separators (if state = .open then state else .open)
      field rest
  | state, field, .cut :: rest =>
    if state = .open then field.reverse :: splitFields separators .closed [] rest
    else splitFields separators .closed [] rest
  | state, field, .octet c quoted splits :: rest =>
    if splits && separators.contains c then
      let isBlank := c == ' ' || c == '\t' || c == '\n'
      match state with
      | .open =>
        field.reverse ::
          splitFields separators (if isBlank then .closedByBlank else .closed) [] rest
      | .closedByBlank => splitFields separators (if isBlank then state else .closed) [] rest
      | .closed =>
        if isBlank then splitFields separators state [] rest
        else [] :: splitFields separators .closed [] rest
    else splitFields separators .open ((c, quoted) :: field) rest

/-- The separators of fields. -/
def separatorsOf (p : Process) : Octets :=
  (p.valueOf? "IFS".toList).getD [' ', '\t', '\n']

/-- What stands between arguments that are joined: the first separator, if there is one. -/
def joint (p : Process) : Octets :=
  (separatorsOf p).take 1

namespace Process

/-- The forms of patterns that a shell knows. -/
def patternStyle (p : Process) : PatternStyle :=
  { full := p.dialect = .rich, groups := p.extras.contains "extglob" }

/-- A pattern that texts are compared with; the case of letters may be left out of account. -/
def comparing (p : Process) (pattern : Pattern) : Pattern :=
  if p.extras.contains "nocasematch" then Pattern.folded pattern else pattern

/-- A pattern for the names of files in a directory; capital and small letters may be the same. -/
def filePattern (p : Process) (octets : List PatternOctet) : Pattern :=
  let pattern := Pattern.ofOctets octets p.patternStyle
  if p.extras.contains "nocaseglob" then Pattern.folded pattern else pattern

/-- The names in a directory that a pattern may stand for. A name with a dot in front is meant only
by a pattern with one, unless an option says otherwise. -/
def namesFor (p : Process) (pattern : Pattern) (names : List Octets) : List Octets :=
  let itself : List Octets := if p.dialect = .rich then [] else [['.'], ['.', '.']]
  let starts := match pattern.head? with
    | some (.octet '.') => true
    | _ => p.extras.contains "dotglob"
  (itself ++ names).filter fun name =>
    (name.head? != some '.' || starts) && pattern.covers name

/-- The directories below a path, itself among them, as far as no link leads there. -/
def directoriesBelow (p : Process) : Nat → Octets → List Octets
  | 0, path => [path]
  | n + 1, path =>
    match p.tree.resolve p.here? (if path.isEmpty then "." else path.toText) with
    | .error _ => [path]
    | .ok location =>
      let inner := (p.tree.children location).filter fun name =>
        p.tree.find? (location ++ [name]) matches some (.directory _) && !name.startsWith "."
      path :: inner.flatMap fun name =>
        p.directoriesBelow n (path ++ Octets.ofText name ++ ['/'])

/-- The names of files that a pattern, cut at its slashes, stands for, after the given path. -/
def filesMatching (p : Process) (path : Octets) : List (List PatternOctet) → List Octets
  | [] => if (p.tree.entryAt p.here? path.toText false).toOption.isSome then [path] else []
  | segment :: rest =>
    let follow (name : Octets) : List Octets :=
      p.filesMatching (path ++ name ++ if rest.isEmpty then [] else ['/']) rest
    let shown (path : Octets) (pattern : Pattern) : List Octets :=
      match p.tree.resolve p.here? (if path.isEmpty then "." else path.toText) with
      | .error _ => []
      | .ok location => p.namesFor pattern ((p.tree.children location).map Octets.ofText)
    let isDeep := p.extras.contains "globstar" && segment == [('*', false), ('*', false)]
    if isDeep then
      let below := p.directoriesBelow 64 path
      if rest.isEmpty then
        (if path.isEmpty then [] else [path]) ++ below.flatMap fun directory =>
          (shown directory [.anyOctets]).map (directory ++ ·)
      else below.flatMap fun directory => p.filesMatching directory rest
    else if (Pattern.ofOctets segment p.patternStyle).isOpen then
      (shown path (p.filePattern segment)).flatMap follow
    else follow (segment.map Prod.fst)

end Process

/-- A pattern cut at its slashes. -/
def patternSegments (field : List PatternOctet) : List (List PatternOctet) :=
  field.splitOnP fun (c, _) => c == '/'

/-- The names of files that a field stands for, in their order, if it is an open pattern. -/
def filesOf? (p : Process) (field : List PatternOctet) : Option (List Octets) :=
  if (Pattern.ofOctets field p.patternStyle).isOpen && !p.isOn 'f' then
    some ((p.filesMatching [] (patternSegments field)).mergeSort fun a b => !decide (b < a))
  else none

/-- What a field becomes: the names of files if it is an open pattern that stands for any, else
its octets, unless an option says that it is nothing or a mistake. -/
def filesOrSelf (field : List PatternOctet) : Exec (List Octets) := do
  let p ← get
  let self := field.map Prod.fst
  match filesOf? p field with
  | none => pure [self]
  | some [] =>
    if p.extras.contains "nullglob" then pure []
    else if p.extras.contains "failglob" then do
      complain ("no match: ".toList ++ self)
      setStatus 1
      throw .failed
    else pure [self]
  | some files => pure files

end Fleet.Shell
