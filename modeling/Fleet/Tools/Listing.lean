import Fleet.Calendar.Printing
import Fleet.Shell.Pattern
import Fleet.Shell.Present
import Fleet.Tools.Status

/-!
# Lists of files

The tool `ls`, with what it says of each file in a long list.
-/

/-!
## Long lists of files

Lines that say of files what their modes are, to whom they belong, how large they are and when they
were changed. What stands in a column is brought to one width. Files do not keep when they were
changed, so they are taken to be changed at present; all of them belong to the user with the number
0.
-/

namespace Fleet.Tools.Details

open Shell

/-- What is left out of the lines, and how the rest is written. -/
structure Style : Type where
  owner : Bool := true
  group : Bool := true
  numeric : Bool := false
  humane : Bool := false
  inode : Bool := false
  room : Bool := false
  /-- The format of times. -/
  time : Octets := "%b %e %H:%M".toList
  deriving Repr

/-- Letters for the powers of 1024. -/
def units : Octets :=
  "KMGTPE".toList

/-- A size divided by 1024 as often as needed, rounded up to two digits. -/
def scaled (size : Nat) (unit : Nat) : List Char → Octets
  | [] => decimal size
  | c :: rest =>
    let tenths := (size * 10 + unit - 1) / unit
    if tenths < 100 then decimal (tenths / 10) ++ '.' :: decimal (tenths % 10) ++ [c]
    else
      let whole := (size + unit - 1) / unit
      if whole < 1024 then decimal whole ++ [c] else scaled size (unit * 1024) rest

/-- A size for people. -/
def humane (size : Nat) : Octets :=
  if size < 1024 then decimal size else scaled size 1024 units

/-- A text at the right end of a column. -/
def right (width : Nat) (text : Octets) : Octets :=
  List.replicate (width - text.length) ' ' ++ text

/-- A text at the left end of a column. -/
def left (width : Nat) (text : Octets) : Octets :=
  text ++ List.replicate (width - text.length) ' '

/-- The width of a column. -/
def widthOf (cells : List Octets) : Nat :=
  (cells.map List.length).foldl max 0

/-- The room that files take, in units of 1024 octets or for people. -/
def room (style : Style) (size : Nat) : Octets :=
  if style.humane then humane size else decimal (size / 1024)

/-- The line in front of the files of a directory. -/
def total (style : Style) (entries : List Entry) : Octets :=
  let size := (entries.map Status.room).foldl (· + ·) 0
  "total ".toList ++ room style size ++ ['\n']

/-- The columns of a file, with the side to which they are moved. -/
def cells (p : Process) (style : Style) (item : Option Location × Entry) : List (Bool × Octets) :=
  let (location, entry) := item
  let own (name : String) (wanted : Bool) : List (Bool × Octets) :=
    if wanted then [(true, (if style.numeric then "0" else name).toList)] else []
  let size := match entry with
    | .sink => "1, 3".toList
    | entry => if style.humane then humane (Status.size entry) else decimal (Status.size entry)
  [(true, Status.kindLetter entry :: Permissions.letters (p.tree.modeOf entry)),
    (false, decimal (Status.linkCount p location entry))] ++
    own "root" style.owner ++ own "root" style.group ++
    [(false, size), (true, (p.now.reading p.zone).display style.time)]

/-- What stands in front of names in lists of every kind. -/
def leads (p : Process) (style : Style) (entries : List Entry) : List Octets :=
  let inode (entry : Entry) : Octets := ((Status.field? p [] entry 'i').map Prod.fst).getD []
  let column (wanted : Bool) (cell : Entry → Octets) : List Octets :=
    let width := widthOf (entries.map cell)
    entries.map fun entry => if wanted then right width (cell entry) ++ [' '] else []
  List.zipWith (· ++ ·) (column style.inode inode)
    (column style.room fun entry => room style (Status.room entry))

/-- What stands in front of names in long lists. -/
def rows (p : Process) (style : Style) (items : List (Option Location × Entry)) : List Octets :=
  let all := items.map (cells p style)
  let widths := (List.range 6).map fun i =>
    widthOf (all.map fun row => ((row[i]?).map Prod.snd).getD [])
  all.map fun row =>
    ((row.zip widths).map fun ((isLeft, text), width) =>
      (if isLeft then left width text else right width text) ++ [' ']).flatten

end Fleet.Tools.Details

/-!
## Listing files

The tool `ls`: it shows the names of files and of what is in directories, in an order, perhaps with
marks for what they are, one below the other or beside one another.
-/

namespace Fleet.Tools.Listing

open Shell

/-- A file that is shown: its name, what it is, and where. -/
structure Item : Type where
  name : Octets
  entry : Entry
  location : Option Location := none
  deriving Repr

/-- How names are put on lines. -/
inductive Layout : Type where
  | single
  /-- In columns, from top to bottom. -/
  | columns
  /-- In columns, from left to right. -/
  | rows
  | commas
  /-- One below the other, with what the files are. -/
  | long
  deriving Repr, DecidableEq

/-- The width of a line. -/
def lineWidth : Nat :=
  80

/-- Blanks from one column of the screen to another, with tabs where they fit. -/
def indent (start stop : Nat) : Octets :=
  let rec go : Nat → Nat → Octets
    | 0, _ => []
    | n + 1, column =>
      if stop ≤ column then []
      else if (column + 1) / 8 < stop / 8 then '\t' :: go n (column + (8 - column % 8))
      else ' ' :: go n (column + 1)
  go (stop - start) start

/-- The widths of columns for a number of columns; `across` says how names are dealt out. -/
def widths (across : Bool) (names : List Octets) (count : Nat) : List Nat :=
  let rows := (names.length + count - 1) / count
  (List.range count).map fun column =>
    let own := (names.zipIdx).filterMap fun (name, i) =>
      if (if across then i % count else i / rows) = column then some name.length else none
    own.foldl max 0 + if column + 1 = count then 0 else 2

/-- Names in columns, as many as fit. -/
def inColumns (across : Bool) (names : List Octets) : Octets :=
  let fits (count : Nat) : Bool :=
    (widths across names count).foldl (· + ·) 0 < lineWidth
  let most := min names.length (lineWidth / 3)
  let count := (((List.range most).reverse.map (· + 1)).find? fits).getD 1
  let own := widths across names count
  let rows := (names.length + count - 1) / count
  let line (row : Nat) : Octets :=
    let picked := (List.range count).filterMap fun column =>
      names[if across then row * count + column else column * rows + row]?
    let cells := (picked.zipIdx).map fun (name, column) =>
      let start := (own.take column).foldl (· + ·) 0
      if column + 1 = picked.length then name
      else name ++ indent (start + name.length) (start + own.getD column 0)
    cells.flatten ++ ['\n']
  ((List.range rows).map line).flatten

/-- Names with commas between them, on as many lines as they need. -/
def withCommas (names : List Octets) : Octets :=
  let (text, _) := names.foldl (fun (text, column) name =>
    if column = 0 then (text ++ name, name.length)
    else if column + name.length + 2 < lineWidth then
      (text ++ [',', ' '] ++ name, column + 2 + name.length)
    else (text ++ [',', '\n'] ++ name, name.length)) (([] : Octets), 0)
  if names.isEmpty then [] else text ++ ['\n']

/-- Names in a layout. -/
def laidOut (layout : Layout) (names : List Octets) : Octets :=
  match layout with
  | .single | .long => (names.map (· ++ ['\n'])).flatten
  | .columns => inColumns false names
  | .rows => inColumns true names
  | .commas => withCommas names

/-- The mark of a file behind its name. -/
def mark (g : Given) (entry : Entry) : Octets :=
  let full := g.has 'F'
  match entry with
  | .directory _ => if full || g.has 'p' || g.has 'f' then ['/'] else []
  | .link _ => if full || g.has 'f' then ['@'] else []
  | entry => if full && entry.isExecutable then ['*'] else []

/-- A name as it is shown. -/
def shownName (g : Given) (name : Octets) : Octets :=
  match g.lastOf ['Q', 'b', 'N', 'q'] with
  | some 'Q' => '"' :: name.flatMap (Quoting.escaped '"') ++ ['"']
  | some 'b' => name.flatMap fun c => if c = ' ' then ['\\', ' '] else Quoting.escaped ' ' c
  | some 'q' => name.map fun c => if Quoting.isPrintable c then c else '?'
  | _ => name

/-- The part of a name from its last point on. -/
def extension (name : Octets) : Octets :=
  let after := name.reverse.takeWhile (· ≠ '.')
  if after.length = name.length then [] else after.reverse

/-- Items in the order that is asked for. -/
def arranged (g : Given) (items : List Item) : List Item :=
  let byName := items.mergeSort fun a b => lessEqual a.name b.name
  let sorted :=
    match g.lastOf ['S', 'X', 'U', 'v', 't'] with
    | some 'S' => byName.mergeSort fun a b => Status.size b.entry ≤ Status.size a.entry
    | some 'X' => byName.mergeSort fun a b => lessEqual (extension a.name) (extension b.name)
    | some 'U' => items
    | _ => byName
  let sorted := if g.has 'r' then sorted.reverse else sorted
  if g.has 'O' then
    let isDirectory (i : Item) : Bool := i.entry matches .directory _
    sorted.filter isDirectory ++ sorted.filter (!isDirectory ·)
  else sorted

/-- How names are put on lines. A later option counts, but for the one that takes nothing away from
long lists. -/
def layoutOf (g : Given) : Layout :=
  g.options.foldl (fun layout (key, _) =>
    match key with
    | 'C' => .columns
    | 'x' => .rows
    | 'm' => .commas
    | 'l' | 'g' | 'o' | 'n' | '7' => .long
    | '1' => if layout = .long then layout else .single
    | _ => layout) .single

/-- The format of times that a style has. -/
def timeFormat (g : Given) : Octets :=
  match g.lastOf ['7', '8'], g.value? '8' with
  | some '7', _ | some _, some ['f', 'u', 'l', 'l', '-', 'i', 's', 'o'] =>
    "%Y-%m-%d %H:%M:%S.%N %z".toList
  | some _, some ('+' :: format) => format
  | some _, some ['l', 'o', 'n', 'g', '-', 'i', 's', 'o'] => "%Y-%m-%d %H:%M".toList
  | some _, some ['i', 's', 'o'] => "%m-%d %H:%M".toList
  | _, _ => "%b %e %H:%M".toList

/-- What long lists say, and how. -/
def styleOf (g : Given) : Details.Style :=
  { owner := !g.has 'g'
    group := !g.has 'o' && !g.has 'G'
    numeric := g.has 'n'
    humane := g.has 'h'
    inode := g.has 'i'
    room := g.has 's'
    time := timeFormat g }

/-- Items as they are shown. -/
def shown (g : Given) (p : Process) (items : List Item) : Octets :=
  let items := arranged g items
  let entries := items.map Item.entry
  let layout := layoutOf g
  let style := styleOf g
  let name (i : Item) : Octets :=
    match layout, i.entry with
    | .long, .link target => shownName g i.name ++ " -> ".toList ++ shownName g (.ofText target)
    | _, entry => shownName g i.name ++ mark g entry
  let names := items.map name
  let rows :=
    if layout = .long then
      let details := Details.rows p style (items.map fun i => (i.location, i.entry))
      List.zipWith (· ++ ·) details names
    else names
  let names := List.zipWith (· ++ ·) (Details.leads p style entries) rows
  laidOut layout names

/-- What is in a directory, as it is shown. -/
def contents (g : Given) (p : Process) (items : List Item) : Octets :=
  let style := styleOf g
  let first := if layoutOf g = .long || style.room then Details.total style (items.map Item.entry)
    else []
  first ++ shown g p items

/-- The items of a directory that are to be shown. -/
def itemsIn (g : Given) (p : Process) (location : Location) : List Item :=
  let hidden := g.lastOf ['a', 'A']
  let isLeftOut (name : Octets) : Bool :=
    let patterns := g.valuesOf 'I' ++ (if hidden.isNone then g.valuesOf 'H' else [])
    (g.has 'B' && name.getLast? == some '~') ||
      patterns.any fun text =>
        (Pattern.ofOctets (text.map (·, false))).covers name &&
          (name.head? != some '.' || text.head? == some '.')
  let names := (p.tree.children location).map Octets.ofText
  let names := names.filter fun name =>
    (hidden.isSome || name.head? != some '.') && !isLeftOut name
  let own := names.filterMap fun name =>
    let place := location ++ [name.toText]
    let found := if g.has 'L' then p.tree.entryAt none (FileTree.pathOf place) else
      (p.tree.find? place).elim (.error .noSuchFile) .ok
    (found.toOption.or (p.tree.find? place)).map fun entry =>
      ({ name, entry, location := place } : Item)
  let dots : List Item :=
    if hidden == some 'a' then
      [{ name := ['.'], entry := .directory 0 }, { name := ['.', '.'], entry := .directory 0 }]
    else []
  dots ++ own

/-- A directory with its items, and those below it; `n` bounds how deep that is. -/
def blocks (g : Given) (p : Process) (headed : Bool) : Nat → Octets → Location → List Octets
  | 0, _, _ => []
  | n + 1, path, location =>
    let items := itemsIn g p location
    let own := (if headed then path ++ ":\n".toList else []) ++ contents g p items
    let below := (arranged g items).filterMap fun i =>
      match i.entry with
      | .directory _ => if i.name = ['.'] || i.name = ['.', '.'] then none else some i.name
      | _ => none
    if g.has 'R' then
      own :: below.flatMap fun name =>
        blocks g p headed n (within path name) (location ++ [name.toText])
    else [own]

/-- Lists files and what is in directories. -/
def list (g : Given) : StateM Process Nat := do
  let paths : List Octets := if g.operands.isEmpty then [['.']] else g.operands
  let p ← get
  let literal := g.has 'd' || ((g.has 'F' || layoutOf g = .long) && !g.has 'L' && !g.has 'D')
  let found := paths.map fun path =>
    let followed := entryOf p path
    let own := entryOf p path false
    (path, if literal then own else if followed.isOk then followed else own)
  found.forM fun (path, entry) =>
    match entry with
    | .ok _ => pure ()
    | .error e => fileFault "cannot access" path e
  let items := found.filterMap fun (path, entry) =>
    entry.toOption.map fun entry =>
      let location := (locationOf p path (!(entry matches .link _))).toOption
      ({ name := path, entry, location } : Item)
  let isListed (i : Item) : Bool := !g.has 'd' && i.entry matches .directory _
  let files := items.filter (!isListed ·)
  let headed := 1 < paths.length || g.has 'R'
  let listings := (arranged g (items.filter isListed)).flatMap fun i =>
    match locationOf p i.name with
    | .ok location => blocks g p headed (p.tree.entries.length + 2) i.name location
    | .error _ => []
  say (joined ['\n'] ((if files.isEmpty then [] else [shown g p files]) ++ listings))
  pure (if items.length < paths.length then 2 else 0)

/-- The options of the tool. -/
def known : List KnownOption :=
  [flag 'a' ["all"], flag 'A' ["almost-all"], flag 'b' ["escape"], flag 'B' ["ignore-backups"],
    flag 'c', flag 'C', named '0' "color" .perhaps, flag 'd' ["directory"],
    ⟨'D', ["dereference-command-line", "dereference-command-line-symlink-to-dir"], .nothing, false⟩,
    ⟨'F', ["classify"], .perhaps, false⟩, ⟨'F', [], .nothing, true⟩, named 'f' "file-type",
    named '7' "full-time",
    flag 'g', flag 'G' ["no-group"], flag '1', named 'O' "group-directories-first",
    flag 'h' ["human-readable"], named 'H' "hide" .value, flag 'i' ["inode"],
    valued 'I' ["ignore"], flag 'k' ["kibibytes"], flag 'l', flag 'L' ["dereference"], flag 'm',
    flag 'n' ["numeric-uid-gid"], flag 'N' ["literal"], flag 'o', flag 'p',
    flag 'q' ["hide-control-chars"], flag 'Q' ["quote-name"], flag 'r' ["reverse"],
    flag 'R' ["recursive"], flag 's' ["size"], flag 'S', flag 't', valued 'T' ["tabsize"],
    named '8' "time-style" .value,
    flag 'u', flag 'U', flag 'v', valued 'w' ["width"], flag 'x', flag 'X', flag 'Z' ["context"]]

end Listing

/-- Lists files and what is in directories. -/
def ls : Tool :=
  withOptions Listing.known Listing.list 2

/-- Lists files in columns. -/
def dir : Tool :=
  withOptions Listing.known (fun g =>
    Listing.list { g with options := ('C', none) :: ('b', none) :: g.options }) 2

/-- Lists files with what they are. -/
def vdir : Tool :=
  withOptions Listing.known (fun g =>
    Listing.list { g with options := ('l', none) :: ('b', none) :: g.options }) 2

end Fleet.Tools
