import Fleet.Text.Octets

/-!
# Patterns of file names

A pattern stands for many texts: `*` for any octets, `?` for one, a bracket expression for one of
several, and, where that is asked for, a group for one of several patterns. A quoted octet stands
for itself. A text is matched by following all its ends that the elements so far leave over.
-/

namespace Fleet.Shell

/-- An octet of a pattern, and whether it is quoted. -/
abbrev PatternOctet : Type :=
  Char × Bool

/-- How often one of the patterns of a group matches. -/
inductive Times : Type where
  | once
  | atMostOnce
  | anyNumber
  | atLeastOnce
  /-- None of them matches. -/
  | never
  deriving Repr, DecidableEq

/-- What an element of a pattern stands for. -/
inductive PatternElement : Type where
  | octet (c : Char)
  | anyOctet
  | anyOctets
  /-- An octet from, or outside of, some ranges. -/
  | oneOf (outside : Bool) (ranges : List (Char × Char))
  /-- Texts of some patterns. -/
  | group (times : Times) (choices : List (List PatternElement))
  deriving Repr

/-- A pattern. -/
abbrev Pattern : Type :=
  List PatternElement

/-- Which forms of patterns there are. -/
structure PatternStyle : Type where
  /-- Whether bracket expressions may start with `^`, and hold collating elements and classes that
  are not known. -/
  full : Bool := false
  /-- Whether there are groups. -/
  groups : Bool := false
  deriving Repr

namespace Pattern

/-- The ranges of a class of octets; an unknown one has none. -/
def classRanges (name : String) : List (Char × Char) :=
  match name with
  | "alpha" => [('a', 'z'), ('A', 'Z')]
  | "digit" => [('0', '9')]
  | "alnum" => [('a', 'z'), ('A', 'Z'), ('0', '9')]
  | "upper" => [('A', 'Z')]
  | "lower" => [('a', 'z')]
  | "space" => [('\t', '\r'), (' ', ' ')]
  | "blank" => [('\t', '\t'), (' ', ' ')]
  | "punct" => [('!', '/'), (':', '@'), ('[', '`'), ('\x7b', '~')]
  | "xdigit" => [('0', '9'), ('a', 'f'), ('A', 'F')]
  | "cntrl" => [('\x00', '\x1F'), ('\x7F', '\x7F')]
  | "graph" => [('!', '~')]
  | "print" => [(' ', '~')]
  | _ => []

/-- What stands between a bracket with a mark, such as `[:`, and the mark with a bracket, and what
follows. -/
def marked? : List PatternOctet → Option (Char × Octets × List PatternOctet)
  | ('[', false) :: (mark, _) :: rest =>
    let inner := rest.takeWhile (·.1 ≠ mark)
    match rest.drop inner.length with
    | _ :: (']', _) :: after =>
      if mark = ':' ∨ mark = '.' ∨ mark = '=' then some (mark, inner.map Prod.fst, after) else none
    | _ => none
  | _ => none

/-- The octet that a collating element is. -/
def collated? : Octets → Option Char
  | [c] => some c
  | name =>
    [("hyphen", '-'), ("space", ' '), ("slash", '/'), ("period", '.'), ("comma", ','),
      ("colon", ':'), ("asterisk", '*')].lookup (String.ofList name)

/-- The ranges of a bracket expression up to its closing bracket, and what follows. A bracket right
at the start stands for itself. -/
def brackets (style : PatternStyle) (atStart : Bool) : Nat → List PatternOctet →
    Option (List (Char × Char) × List PatternOctet)
  | 0, _ => none
  | _, [] => none
  | n + 1, (c, q) :: rest =>
    let special := (marked? ((c, q) :: rest)).filter fun (mark, name, _) =>
      style.full || (mark == ':' && !(classRanges (String.ofList name)).isEmpty)
    if c = ']' ∧ ¬q ∧ ¬atStart then some ([], rest)
    else
      match special with
      | some (':', name, after) =>
        let ranges := classRanges (String.ofList name)
        (brackets style false n after).map fun (more, left) => (ranges ++ more, left)
      | other =>
        let (start, rest) := match other with
          | some (_, name, after) => ((collated? name).getD c, after)
          | none => (c, rest)
        match rest with
        | ('-', false) :: (d, r) :: after =>
          if d = ']' ∧ ¬r then
            (brackets style false n rest).map fun (ranges, left) =>
              ((start, start) :: ranges, left)
          else
            let (last, after) := match marked? ((d, r) :: after) with
              | some ('.', name, later) => ((collated? name).getD d, later)
              | _ => (d, after)
            (brackets style false n after).map fun (ranges, left) =>
              ((start, last) :: ranges, left)
        | _ => (brackets style false n rest).map fun (ranges, left) =>
          ((start, start) :: ranges, left)

/-- How often a group matches that starts with an octet. -/
def times? (c : Char) : Option Times :=
  match c with
  | '@' => some .once
  | '?' => some .atMostOnce
  | '*' => some .anyNumber
  | '+' => some .atLeastOnce
  | '!' => some .never
  | _ => none

/-- The element that comes first where no group does, and what follows. A bracket that is never
closed stands for itself. -/
def element (style : PatternStyle) (c : Char) (rest : List PatternOctet) :
    PatternElement × List PatternOctet :=
  match c with
  | '*' => (.anyOctets, rest)
  | '?' => (.anyOctet, rest)
  | '[' =>
    let (outside, inner) :=
      match rest with
      | ('!', false) :: inner => (true, inner)
      | ('^', false) :: inner => if style.full then (true, inner) else (false, rest)
      | inner => (false, inner)
    match brackets style true (inner.length + 1) inner with
    | some (ranges, after) => (.oneOf outside ranges, after)
    | none => (.octet c, rest)
  | _ => (.octet c, rest)

mutual

/-- The elements of a pattern, in a group up to the end of one of its patterns, and what follows. -/
def elements (style : PatternStyle) (inGroup : Bool) : Nat → List PatternOctet →
    Pattern × List PatternOctet
  | 0, octets => ([], octets)
  | _, [] => ([], [])
  | n + 1, (c, quoted) :: rest =>
    if inGroup && !quoted && (c == '|' || c == ')') then ([], (c, quoted) :: rest)
    else
      let group : Option (PatternElement × List PatternOctet) :=
        match times? c, rest with
        | some times, ('(', false) :: inner =>
          if quoted || !style.groups then none
          else (choices style n inner).map fun (ps, after) => (.group times ps, after)
        | _, _ => none
      let (first, after) := match c, rest with
        | '\\', (d, _) :: later =>
          if style.full && !quoted then (.octet d, later)
          else if quoted then (.octet c, rest)
          else group.getD (element style c rest)
        | _, _ => if quoted then (.octet c, rest) else group.getD (element style c rest)
      let (more, left) := elements style inGroup n after
      (first :: more, left)

/-- The patterns of a group, and what follows it, if it is closed. -/
def choices (style : PatternStyle) : Nat → List PatternOctet →
    Option (List Pattern × List PatternOctet)
  | 0, _ => none
  | n + 1, octets =>
    let (first, left) := elements style true n octets
    match left with
    | (')', _) :: after => some ([first], after)
    | _ :: after => (choices style n after).map fun (more, left) => (first :: more, left)
    | [] => none

end

/-- The pattern that octets are. -/
def ofOctets (octets : List PatternOctet) (style : PatternStyle := {}) : Pattern :=
  (elements style false (2 * octets.length + 1) octets).1

/-- The octets of a text in which backslashes quote what follows them. -/
def quoted : Octets → List PatternOctet
  | '\\' :: c :: rest => (c, true) :: quoted rest
  | c :: rest => (c, false) :: quoted rest
  | [] => []

/-- The pattern that a text is, of the kind that tools know. -/
def ofText (text : Octets) : Pattern :=
  ofOctets (quoted text) { full := true }

/-- Whether an element stands for an octet by itself. -/
def standsFor : PatternElement → Char → Bool
  | .octet c, d => c == d
  | .anyOctet, _ => true
  | .oneOf outside ranges, d => (ranges.any fun (low, high) => low ≤ d && d ≤ high) != outside
  | .anyOctets, _ | .group _ _, _ => false

/-- All ends of a text, the longest first. -/
def ends : Octets → List Octets
  | [] => [[]]
  | c :: rest => (c :: rest) :: ends rest

/-- Several ends of a text, the longest first, each once. -/
def distinct (several : List Octets) : List Octets :=
  (several.mergeSort fun a b => b.length ≤ a.length).foldr (fun text kept =>
    if (kept.head?.map List.length) = some text.length then kept else text :: kept) []

/-- Ends of a text together with what steps leave of them. -/
def closure (step : List Octets → List Octets) : Nat → List Octets → List Octets
  | 0, several => several
  | n + 1, several =>
    let more := distinct (several ++ step several)
    if more.length = several.length then several else closure step n more

mutual

/-- What a pattern may leave of some ends of a text. -/
def leavings : List PatternElement → List Octets → List Octets
  | [], several => several
  | element :: rest, several => leavings rest (step element several)

/-- What an element may leave of some ends of a text. -/
def step : PatternElement → List Octets → List Octets
  | .anyOctets, several => ((several.head?).map ends).getD []
  | .group times choices, several =>
    let length := ((several.head?).map List.length).getD 0
    match times with
    | .once => leavingsOfAny choices several
    | .atMostOnce => distinct (several ++ leavingsOfAny choices several)
    | .anyNumber => closure (leavingsOfAny choices) (length + 1) several
    | .atLeastOnce =>
      closure (leavingsOfAny choices) (length + 1) (leavingsOfAny choices several)
    | .never => distinct (several.flatMap fun text =>
        let taken := (leavingsOfAny choices [text]).map List.length
        (ends text).filter fun left => !taken.contains left.length)
  | element, several =>
    several.filterMap fun
      | c :: rest => if standsFor element c then some rest else none
      | [] => none

/-- What one of several patterns may leave of some ends of a text. -/
def leavingsOfAny : List (List PatternElement) → List Octets → List Octets
  | [], _ => []
  | pattern :: rest, several => distinct (leavings pattern several ++ leavingsOfAny rest several)

end

/-- Whether a pattern stands for a text. -/
def covers (p : Pattern) (text : Octets) : Bool :=
  (leavings p [text]).any List.isEmpty

/-- Whether a pattern can stand for more than one text. -/
def isOpen (p : Pattern) : Bool :=
  p.any fun
    | .octet _ => false
    | _ => true

/-- A letter in its other case; any other octet as it is. -/
def otherCase (c : Char) : Char :=
  if c.isUpper then c.toLower else c.toUpper

mutual

/-- A pattern for which capital and small letters are the same. -/
def folded : List PatternElement → List PatternElement
  | [] => []
  | element :: rest => foldedElement element :: folded rest

/-- An element for which capital and small letters are the same. -/
def foldedElement : PatternElement → PatternElement
  | .octet c => if c.isAlpha then .oneOf false [(c, c), (otherCase c, otherCase c)] else .octet c
  | .oneOf outside ranges =>
    .oneOf outside (ranges ++ ranges.map fun (low, high) => (otherCase low, otherCase high))
  | .group times choices => .group times (foldedAll choices)
  | element => element

/-- Patterns for which capital and small letters are the same. -/
def foldedAll : List (List PatternElement) → List (List PatternElement)
  | [] => []
  | pattern :: rest => folded pattern :: foldedAll rest

end

end Pattern

end Fleet.Shell
