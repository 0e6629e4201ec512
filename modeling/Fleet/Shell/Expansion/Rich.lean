import Fleet.Shell.Assigning
import Fleet.Shell.Expansion.Plain
import Fleet.Shell.Parser
import Fleet.Shell.Quoting

/-!
# Parameters in the rich shell

A parameter holds one text, several texts or nothing. What is made of it is made of each text.
-/

namespace Fleet.Shell.Expansion.Rich

/-- What a parameter holds. -/
inductive Held : Type where
  | nothing
  | one (text : Octets)
  /-- Several texts, which between quotes are joined or fields of their own. -/
  | several (texts : List Octets) (joined : Bool)
  deriving Repr

namespace Held

/-- What is held if it may be nothing. -/
def ofOption : Option Octets → Held
  | some text => one text
  | none => nothing

/-- The texts that are held. -/
def texts : Held → List Octets
  | nothing => []
  | one text => [text]
  | several texts _ => texts

/-- What is held after each text was changed. -/
def map (f : Octets → Octets) : Held → Held
  | nothing => nothing
  | one text => one (f text)
  | several texts joined => several (texts.map f) joined

/-- Whether there is nothing, or nothing but an empty text where that is the same. -/
def isMissing (orEmpty : Bool) : Held → Bool
  | nothing => true
  | one text => orEmpty && text.isEmpty
  | several texts _ => texts.isEmpty || (orEmpty && texts.all List.isEmpty && texts.length = 1)

end Held

/-- A parameter with its subscript worked out. -/
inductive Place : Type where
  | named (name : Octets)
  | element (name subscript : Octets)
  | whole (name : Octets) (joined : Bool)
  deriving Repr

namespace Place

/-- How a parameter is shown in a complaint. -/
def shown : Place → Octets
  | named name => if name.all Char.isDigit || isSeveral name then '$' :: name else name
  | element name subscript => name ++ '[' :: subscript ++ [']']
  | whole name joined => name ++ ['[', if joined then '*' else '@', ']']

/-- The name of the variable. -/
def name : Place → Octets
  | named name | element name _ | whole name _ => name

/-- The parameter that a text names, if it names one. -/
def ofText? (text : Octets) : Option Place :=
  let plain := text.takeWhile (· ≠ '[')
  match text with
  | [c] =>
    if isNameStart c || Reader.isSpecialParameter c then some (named text) else none
  | _ =>
    if isName text || (!text.isEmpty && text.all Char.isDigit) then some (named text)
    else if isName plain && text.getLast? == some ']' then
      match (text.drop (plain.length + 1)).dropLast with
      | ['@'] => some (whole plain false)
      | ['*'] => some (whole plain true)
      | [] => none
      | subscript => some (element plain subscript)
    else none

end Place

/-- What a parameter holds. -/
def held : Place → Exec Held
  | .named name => do
    let p ← get
    if isSeveral name then pure (.several p.arguments (name == ['*']))
    else
      match p.resolved name with
      | (target, none) => pure (.ofOption (parameter? p target))
      | (target, some ['@']) =>
        pure (.several (((p.tableOf? target).map Table.all).getD [] |>.map Prod.snd) false)
      | (target, some subscript) => do
        match ← keyFor? target subscript with
        | some key => do pure (.ofOption (((← get).tableOf? target).bind (·.get? key)))
        | none => pure .nothing
  | .element name subscript => do
    let (target, _) := (← get).resolved name
    match ← keyFor? target subscript with
    | some key => do
      let p ← get
      let dynamic := if subscript = ['0'] then known? p name else none
      pure (.ofOption (((p.tableOf? target).bind (·.get? key)).or dynamic))
    | none => do
      complain (name ++ ": bad array subscript".toList)
      pure .nothing
  | .whole name joined => do
    let p ← get
    let (target, _) := p.resolved name
    match p.tableOf? target with
    | some table => pure (.several (table.all.map Prod.snd) joined)
    | none =>
      if name = "FUNCNAME".toList then
        let isFile := !p.inline && !p.isOn 's' && !p.calls.isEmpty
        pure (.several (p.calls ++ if isFile then ["main".toList] else []) joined)
      else pure (.several (known? p name).toList joined)

/-- The parameter that is meant, with references by other parameters followed. -/
def placeOf (expand : Expander) : Subject → Exec Place
  | .named name => pure (.named name)
  | .element name subscript => do
    pure (.element name (Cell.octets (← expand {} subscript)))
  | .whole name joined => pure (.whole name joined)
  | .indirect of => do
    let inner ← placeOf expand of
    match ← held inner with
    | .nothing => discard (inner.shown ++ ": invalid indirect expansion".toList)
    | content =>
      let text := List.intercalate [' '] content.texts
      match Place.ofText? text with
      | some place => pure place
      | none => discard (text ++ ": invalid variable name".toList)

/-- The cells of what is held. -/
def cellsOf (manner : Manner) (quoted : Bool) : Held → Exec (List Cell)
  | .nothing => pure []
  | .one text => pure (Cell.ofExpansion quoted text)
  | .several texts joined => do
    let p ← get
    if joined && (quoted || !manner.splits) then
      pure (Cell.ofExpansion quoted (List.intercalate (Shell.joint p) texts))
    else if manner.splits then pure (Cell.ofSeveral quoted texts)
    else pure (Cell.ofExpansion quoted (List.intercalate [' '] texts))

/-- Refuses a parameter that holds nothing, if an option asks for that. -/
def refuseUnset (place : Place) (held : Held) : Exec Unit := do
  match held with
  | .nothing =>
    if (← get).isOn 'u' then abandon (place.shown ++ ": unbound variable".toList)
  | _ => pure ()

/-- The longest part at the start of a text that a pattern stands for, by its length. -/
def longest? (pattern : Pattern) (text : Octets) : Option Nat :=
  ((Pattern.leavings pattern [text]).map fun left => text.length - left.length).max?

/-- A text with other ones in place of what a pattern stands for. -/
def exchanged (pattern : Pattern) (new : Octets → Octets) (everywhere : Bool) :
    Nat → Octets → Octets
  | 0, text => text
  | n + 1, text =>
    match longest? pattern text with
    | some (k + 1) =>
      let left := text.drop (k + 1)
      new (text.take (k + 1)) ++
        if everywhere && !left.isEmpty then exchanged pattern new everywhere n left else left
    | some 0 =>
      match text with
      | c :: rest =>
        if everywhere then new [] ++ c :: exchanged pattern new everywhere n rest
        else new [] ++ text
      | [] => new []
    | none =>
      match text with
      | c :: rest => c :: exchanged pattern new everywhere n rest
      | [] => []

/-- A replacement, in which a sign that is not quoted stands for what was matched. -/
def replacement (cells : List PatternOctet) (matched : Octets) : Octets :=
  (cells.map fun (c, quoted) => if c = '&' && !quoted then matched else [c]).flatten

/-- A text with another one in place of what a pattern stands for where an anchor says. -/
def exchangedAt (anchor : Anchor) (pattern : Pattern) (new : Octets → Octets)
    (text : Octets) : Octets :=
  match anchor with
  | .start =>
    match longest? pattern text with
    | some k => new (text.take k) ++ text.drop k
    | none => text
  | .finish =>
    match (List.range (text.length + 1)).find? fun k => pattern.covers (text.drop k) with
    | some k => text.take k ++ new (text.drop k)
    | none => text
  | .anywhere | .everywhere =>
    if pattern.isEmpty || text.isEmpty then text
    else exchanged pattern new (anchor = .everywhere) (text.length + 1) text

/-- The letters that say what a variable is. -/
def marksOf (v : Variable) : Octets :=
  let array := match v.table with
    | some (.indexed _) => ['a']
    | some (.keyed _) => ['A']
    | none => []
  let recasing := match v.recasing with
    | some .lower => ['l']
    | some .upper => ['u']
    | some .swapped => ['c']
    | none => []
  array ++ (if v.integer then ['i'] else []) ++ (if v.reference then ['n'] else []) ++
    (if v.fixed then ['r'] else []) ++ (if v.exported then ['x'] else []) ++ recasing

/-- The elements of an array as an assignment gives them. -/
def shownTable (table : Table) : Octets :=
  let key (text : Octets) : Octets :=
    if table.isKeyed && (text.isEmpty || Quoting.needsQuotes text || text.any Quoting.isHidden) then
      Quoting.double text
    else text
  let items := table.all.map fun (k, value) => '[' :: key k ++ "]=".toList ++ Quoting.double value
  '(' :: List.intercalate [' '] items ++
    if table.isKeyed && !items.isEmpty then [' ', ')'] else [')']

/-- A command that makes a variable what it is. -/
def declaration (v : Variable) : Octets :=
  let marks := marksOf v
  let head := "declare -".toList ++ (if marks.isEmpty then ['-'] else marks) ++ ' ' :: v.name
  match v.table, v.value with
  | some table, _ => head ++ '=' :: shownTable table
  | none, some value => head ++ '=' :: Quoting.double value
  | none, none => head

/-- What a letter makes of what a parameter holds. -/
def transformed (p : Process) (place : Place) (letter : Char) (held : Held) : Held :=
  let v := p.declared? (p.resolved place.name).1
  let table := p.tableOf? (p.resolved place.name).1
  match letter, place with
  | 'Q', _ => held.map Quoting.reusable
  | 'U', _ => held.map (Recasing.upper.apply true fun _ => true)
  | 'u', _ => held.map (Recasing.upper.apply false fun _ => true)
  | 'L', _ => held.map (Recasing.lower.apply true fun _ => true)
  | 'E', _ => held.map Quoting.unescaped
  | 'a', _ =>
    match v with
    | some v => .one (marksOf v)
    | none => .nothing
  | 'A', .whole _ _ =>
    match v with
    | some v => .one (declaration v)
    | none => .nothing
  | 'A', _ =>
    match v, held with
    | some v, .one text =>
      let marks := marksOf v
      let lead := if marks.isEmpty then [] else "declare -".toList ++ marks ++ [' ']
      .one (lead ++ v.name ++ '=' :: Quoting.reusable text)
    | _, _ => .nothing
  | 'K', .whole _ _ =>
    let pairs := ((table.map Table.all).getD []).map fun (k, value) =>
      let keyed := table.any Table.isKeyed
      let key := if keyed && Quoting.needsQuotes k then Quoting.double k else k
      key ++ ' ' :: Quoting.double value
    .one (List.intercalate [' '] pairs)
  | 'k', .whole _ joined =>
    .several (((table.map Table.all).getD []).flatMap fun (k, value) => [k, value]) joined
  | 'K', _ | 'k', _ => held.map Quoting.reusable
  | _, _ => held

/-- Some of several texts at numbers, from an offset on; a negative one counts from behind the given
number. -/
def slicedFrom (items : List (Nat × Octets)) (behind : Nat) (offset : Int) (length : Option Int) :
    Exec (List Octets) := do
  let start := if offset < 0 then offset + behind else offset
  match length.filter (· < 0) with
  | some n => discard (Arithmetic.render n ++ ": substring expression < 0".toList)
  | none =>
    if start < 0 then pure []
    else
      let rest := (items.filter fun (k, _) => start ≤ k).map Prod.snd
      pure (match length with
        | some n => rest.take n.toNat
        | none => rest)

/-- A piece of what a parameter holds. -/
def sliced (place : Place) (held : Held) (offset : Int) (length : Option Int) : Exec Held := do
  let p ← get
  match place, held with
  | _, .nothing => pure .nothing
  | _, .one text =>
    let size : Int := text.length
    let start := if offset < 0 then offset + size else offset
    if start < 0 || size < start then pure (.one [])
    else
      match length with
      | none => pure (.one (text.drop start.toNat))
      | some n =>
        let finish := if n < 0 then size + n else start + n
        if finish < start then
          discard (Arithmetic.render n ++ ": substring expression < 0".toList)
        else pure (.one ((text.drop start.toNat).take (finish - start).toNat))
  | .whole name _, .several _ joined => do
    let table := (p.tableOf? (p.resolved name).1).getD (.indexed [])
    match table with
    | .indexed elements =>
      pure (.several (← slicedFrom elements table.next offset length) joined)
    | .keyed _ =>
      let elements := table.all.zipIdx.map fun ((_, value), n) => (n, value)
      pure (.several (← slicedFrom elements elements.length offset length) joined)
  | _, .several texts joined => do
    let all := (p.name :: texts).zipIdx.map fun (text, n) => (n, text)
    pure (.several (← slicedFrom all all.length offset length) joined)

/-- The pattern that a word stands for. -/
def patternOf (expand : Expander) (word : Word) : Exec Pattern := do
  let cells ← expand { homes := .start } word
  let p ← get
  pure (Pattern.ofOctets (Cell.pattern cells) p.patternStyle)

/-- The number that a word stands for as an expression. -/
def numberOf (expand : Expander) (word : Word) : Exec Int := do
  computed (Cell.octets (← expand {} word))

/-- Puts a text in the place of a parameter that holds nothing. -/
def assign (place : Place) (text : Octets) : Exec Unit :=
  match place with
  | .named name =>
    if isName name then store name none false text
    else discard (place.shown ++ ": cannot assign in this way".toList)
  | .element name subscript => store name (some subscript) false text
  | .whole _ _ => discard (place.shown ++ ": bad array subscript".toList)

/-- What stands for a parameter, depending on whether it holds something. -/
def remedied (expand : Expander) (manner : Manner) (place : Place) (held : Held) (quoted : Bool)
    (remedy : Remedy) (orEmpty : Bool) (word : Word) : Exec (List Cell) := do
  let within : Manner :=
    { manner with homes := if manner.homes == .colons then .colons else .start }
  let missing := held.isMissing orEmpty
  let anchors := match place with
    | .whole _ false | .named ['@'] => quoted
    | _ => false
  let other : Exec (List Cell) := do
    pure ((if quoted then [Cell.anchor] else []) ++ splitting (← expand within word))
  match remedy, missing with
  | .standIn, true => other
  | .replace, false => other
  | .replace, true => pure (if anchors then [.anchor] else [])
  | .assign, true => do
    let text := Cell.octets (← expand { within with splits := false } word)
    assign place text
    cellsOf manner quoted (← Rich.held place)
  | .complain, true => do
    let text := Cell.octets (← expand { within with splits := false } word)
    abandon (place.shown ++ ": ".toList ++
      if !word.isEmpty then text
      else if orEmpty then "parameter null or not set".toList
      else "parameter not set".toList)
  | _, false => cellsOf manner quoted held

/-- The names of variables that start in some way, in their order. -/
def namesWith (p : Process) (start : Octets) : List Octets :=
  let names := (p.vars.filter fun v =>
    (v.value.isSome || v.table.isSome) && start.isPrefixOf v.name)
  (names.map Variable.name).mergeSort fun a b => !decide (b < a)

/-- The cells of a parameter of which something is made. -/
def parameter (expand : Expander) (manner : Manner) (subject : Subject) (use : Use)
    (quoted : Bool) :
    Exec (List Cell) := do
  match use, subject with
  | .mistake source, _ => discard (source ++ ": bad substitution".toList)
  | .names joined, .named name => do
    cellsOf manner quoted (.several (namesWith (← get) name) joined)
  | .subscripts joined, .whole name _ => do
    let p ← get
    let table := p.tableOf? (p.resolved name).1
    cellsOf manner quoted (.several (((table.map Table.all).getD []).map Prod.fst) joined)
  | .value, .indirect (.named name) => do
    let p ← get
    match p.declared? name with
    | some v =>
      if v.reference then cellsOf manner quoted (.ofOption v.value)
      else usual
    | none => usual
  | _, _ => usual
where
  /-- The usual way. -/
  usual : Exec (List Cell) := do
    let place ← placeOf expand subject
    let content ← held place
    match use with
    | .value => do
      refuseUnset place content
      cellsOf manner quoted content
    | .length => do
      match content with
      | .several texts _ => cellsOf manner quoted (.one (decimal texts.length))
      | .one text => cellsOf manner quoted (.one (decimal text.length))
      | .nothing => do
        refuseUnset place content
        cellsOf manner quoted (.one ['0'])
    | .remedy remedy orEmpty word =>
      remedied expand manner place content quoted remedy orEmpty word
    | .trim atEnd longest pattern => do
      refuseUnset place content
      let pattern ← patternOf expand pattern
      cellsOf manner quoted (content.map (Plain.trimmed atEnd longest pattern))
    | .slice offset length => do
      refuseUnset place content
      let offset ← numberOf expand offset
      let length ← match length with
        | some length => do pure (some (← numberOf expand length))
        | none => pure none
      cellsOf manner quoted (← sliced place content offset length)
    | .exchange anchor pattern new => do
      refuseUnset place content
      let pattern := (← get).comparing (← patternOf expand pattern)
      let cells := Cell.pattern (← expand { homes := .start } new)
      cellsOf manner quoted (content.map (exchangedAt anchor pattern (replacement cells)))
    | .recase recasing all pattern => do
      refuseUnset place content
      let test : Char → Bool ←
        if pattern.isEmpty then pure fun _ => true
        else do
          let pattern ← patternOf expand pattern
          pure fun c => pattern.covers [c]
      cellsOf manner quoted (content.map (recasing.apply all test))
    | .transform letter => do
      refuseUnset place content
      let p ← get
      if letter = 'P' then
        match content with
        | .one text =>
          match readPrompt p.dialect text with
          | .ok word => do
            cellsOf manner quoted (.one (Cell.octets (← expand {} word)))
          | .error _ => cellsOf manner quoted content
        | _ => cellsOf manner quoted content
      else if "QUuLEaAKk".toList.contains letter then
        cellsOf manner quoted (transformed p place letter content)
      else discard (place.shown ++ ": bad substitution".toList)
    | _ => cellsOf manner quoted content

end Fleet.Shell.Expansion.Rich
