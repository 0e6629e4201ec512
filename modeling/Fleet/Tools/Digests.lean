import Fleet.Digest.Basic
import Fleet.Digest.Blocks
import Fleet.Tools.Encodings

/-!
# Digests of files

The tools that print digests of files, such as `md5sum`, or check digests that are listed, and those
that print sums: `cksum` and `sum`.
-/

namespace Fleet.Tools

open Shell

namespace Digests

/-- A kind of digest. -/
structure Kind : Type where
  /-- What the digest is called in messages and tagged lines. -/
  name : String
  /-- How many bits it has. -/
  bits : Nat
  digest : Bytes → Bytes

/-- The digest MD5. -/
def md5 : Kind :=
  ⟨"MD5", 128, Digest.Md5.digest⟩

/-- The digest SHA-1. -/
def sha1 : Kind :=
  ⟨"SHA1", 160, Digest.Sha1.digest⟩

/-- The digests SHA-2. -/
def sha224 : Kind :=
  ⟨"SHA224", 224, Digest.Sha2.digest224⟩

@[inherit_doc sha224]
def sha256 : Kind :=
  ⟨"SHA256", 256, Digest.Sha2.digest256⟩

@[inherit_doc sha224]
def sha384 : Kind :=
  ⟨"SHA384", 384, Digest.Sha2.digest384⟩

@[inherit_doc sha224]
def sha512 : Kind :=
  ⟨"SHA512", 512, Digest.Sha2.digest512⟩

/-- The digest BLAKE2b with some number of bits. -/
def blake2 (bits : Nat) : Kind where
  name := if bits = 512 then "BLAKE2b" else "BLAKE2b-" ++ toString bits
  bits := bits
  digest := Digest.Blake2.digest (bits / 8)

/-- Octets in hexadecimal digits. -/
def hexadecimal (octets : Bytes) : Octets :=
  octets.flatMap fun b => [Nat.digitChar (b.toNat / 16), Nat.digitChar (b.toNat % 16)]

/-- A name in one line, and whether something in it had to be written otherwise. -/
def inOneLine (name : Octets) : Octets × Bool :=
  let text := name.flatMap fun c =>
    match c with
    | '\\' => ['\\', '\\']
    | '\n' => ['\\', 'n']
    | '\r' => ['\\', 'r']
    | c => [c]
  (text, text.length ≠ name.length)

/-- A name that was written in one line. -/
def ofOneLine : Octets → Octets
  | '\\' :: 'n' :: rest => '\n' :: ofOneLine rest
  | '\\' :: 'r' :: rest => '\r' :: ofOneLine rest
  | '\\' :: c :: rest => c :: ofOneLine rest
  | c :: rest => c :: ofOneLine rest
  | [] => []

/-- How digests are printed. -/
structure Layout : Type where
  tagged : Bool
  binary : Bool
  /-- Whether lines end in a NUL, and names are printed as they are. -/
  nul : Bool
  base64 : Bool := false
  raw : Bool := false

/-- A line with the digest of a file. -/
def Layout.line (layout : Layout) (kind : Kind) (name : Octets) (text : Octets) : Octets :=
  let digest := kind.digest text.toBytes
  let shown :=
    if layout.base64 then Encoding.base64.encode (Octets.ofBytes digest) else hexadecimal digest
  let (own, changed) := if layout.nul then (name, false) else inOneLine name
  let mark : Octets := if changed then ['\\'] else []
  let stop : Char := if layout.nul then '\x00' else '\n'
  if layout.raw then Octets.ofBytes digest
  else if layout.tagged then
    mark ++ kind.name.toList ++ " (".toList ++ own ++ ") = ".toList ++ shown ++ [stop]
  else mark ++ shown ++ [' ', if layout.binary then '*' else ' '] ++ own ++ [stop]

/-- Prints the digests of files. -/
def printAll (kind : Kind) (layout : Layout) (paths : List Octets) : StateM Process Nat :=
  overAll (if paths.isEmpty then [['-']] else paths) fun path => do
    match ← readSource path with
    | .ok text => do
      say (layout.line kind path text)
      pure 0
    | .error u => do
      fault u.report
      pure 1

/-- A digest that is listed, and the name of the file. -/
structure Listed : Type where
  digest : Octets
  name : Octets

/-- Whether a text may be a digest of a kind. -/
def isDigest (kind : Kind) (text : Octets) : Bool :=
  text.length = kind.bits / 4 && text.all fun c => c.isDigit || (c.toLower ≥ 'a' && c.toLower ≤ 'f')

/-- The digest that a line lists. -/
def listed? (kind : Kind) (line : Octets) : Option Listed :=
  let line := line.dropWhile fun c => c == ' ' || c == '\t'
  let (escapes, line) := match line with
    | '\\' :: rest => (true, rest)
    | line => (false, line)
  let make (digest name : Octets) : Option Listed :=
    if isDigest kind digest && !name.isEmpty then
      some { digest := digest.map Char.toLower, name := if escapes then ofOneLine name else name }
    else none
  let tag : Octets := kind.name.toList ++ " (".toList
  if tag.isPrefixOf line then
    let rest := line.drop tag.length
    -- The last closing parenthesis ends the name.
    let after := rest.reverse.takeWhile (· ≠ ')')
    let name := rest.take (rest.length - after.length - 1)
    match after.reverse.dropWhile (· == ' ') with
    | '=' :: digest => make (digest.dropWhile (· == ' ')) name
    | _ => none
  else
    let digest := line.take (kind.bits / 4)
    match line.drop digest.length with
    | ' ' :: ' ' :: name | ' ' :: '*' :: name => make digest name
    | ' ' :: name => make digest name
    | _ => none

/-- How digests are checked. -/
structure Checking : Type where
  quiet : Bool
  silent : Bool
  warns : Bool
  strict : Bool
  /-- Whether files that are missing do not count. -/
  lenient : Bool

/-- What came of checking. -/
structure Tally : Type where
  malformed : Nat := 0
  wellFormed : Nat := 0
  unread : Nat := 0
  wrong : Nat := 0
  right : Nat := 0

/-- Checks the digest in a line. -/
def checkLine (c : Checking) (kind : Kind) (file : Octets) (t : Tally) (number : Nat)
    (line : Octets) : StateM Process Tally := do
  if line.head? == some '#' || line.isEmpty then pure t
  else
    match listed? kind line with
    | none => do
      if c.warns then
        fault (file ++ ": ".toList ++ decimal number ++ ": improperly formatted ".toList ++
          kind.name.toList ++ " checksum line".toList)
      pure { t with malformed := t.malformed + 1 }
    | some listed => do
      let t := { t with wellFormed := t.wellFormed + 1 }
      let (name, changed) := inOneLine listed.name
      let tell (result : String) : StateM Process Unit :=
        say ((if changed then ['\\'] else []) ++ name ++ (": " ++ result ++ "\n").toList)
      match ← readSource listed.name with
      | .error u =>
        if c.lenient && u.error = .noSuchFile then pure t
        else do
          fault u.report
          if !c.silent then tell "FAILED open or read"
          pure { t with unread := t.unread + 1 }
      | .ok text =>
        if hexadecimal (kind.digest text.toBytes) = listed.digest then do
          if !c.silent && !c.quiet then tell "OK"
          pure { t with right := t.right + 1 }
        else do
          if !c.silent then tell "FAILED"
          pure { t with wrong := t.wrong + 1 }

/-- Says what came of checking the digests in a file; the code says whether all is well. -/
def judge (c : Checking) (file : Octets) (t : Tally) : StateM Process Nat := do
  let warn (count : Nat) (one several : String) : StateM Process Unit := do
    if count ≠ 0 then
      fault ("WARNING: ".toList ++ decimal count ++
        (if count = 1 then one else several).toList)
  if t.wellFormed = 0 then
    fault (file ++ ": no properly formatted checksum lines found".toList)
  else if !c.silent then
    warn t.malformed " line is improperly formatted" " lines are improperly formatted"
    warn t.unread " listed file could not be read" " listed files could not be read"
    warn t.wrong " computed checksum did NOT match" " computed checksums did NOT match"
    if c.lenient && t.right = 0 then fault (file ++ ": no file was verified".toList)
  let good := t.wellFormed ≠ 0 && t.right ≠ 0 && t.wrong = 0 && t.unread = 0 &&
    (!c.strict || t.malformed = 0)
  pure (codeOf good)

/-- Checks the digests that files list. -/
def checkAll (c : Checking) (kind : Kind) (paths : List Octets) : StateM Process Nat :=
  overAll (if paths.isEmpty then [['-']] else paths) fun path => do
    match ← readSource path with
    | .error u => do
      fault u.report
      pure 1
    | .ok text => do
      let file := if isInput path then "'standard input'".toList else Quoting.lead path
      let tally ← ((linesOf text).zipIdx 1).foldlM (fun t (line, number) =>
        checkLine c kind file t number line) {}
      judge c file tally

/-- The options that say how digests are checked. -/
def checkOptions : List KnownOption :=
  [flag 'c' ["check"], named 'I' "ignore-missing", named 'q' "quiet", named 'S' "status",
    named 'r' "strict", flag 'w' ["warn"]]

/-- What is wrong with options that do not go together. -/
def conflict? (g : Given) : Option String :=
  let onlyChecking : List (Char × String) :=
    [('I', "ignore-missing"), ('S', "status"), ('w', "warn"), ('q', "quiet"), ('r', "strict")]
  if g.has 'T' && g.has 't' then some "--tag does not support --text mode"
  else if g.has 'z' && g.has 'c' then
    some "the --zero option is not supported when verifying checksums"
  else if g.has 'T' && g.has 'c' then
    some "the --tag option is meaningless when verifying checksums"
  else if (g.has 'b' || g.has 't') && g.has 'c' then
    some "the --binary and --text options are meaningless when verifying checksums"
  else if g.has 'c' then none
  else
    (onlyChecking.find? fun (key, _) => g.has key).map fun (_, name) =>
      "the --" ++ name ++ " option is meaningful only when verifying checksums"

/-- How options say that digests are checked. -/
def checkingOf (g : Given) : Checking :=
  { quiet := g.has 'q', silent := g.has 'S', warns := g.has 'w', strict := g.has 'r'
    lenient := g.has 'I' }

/-- Prints digests of a kind, or checks them. -/
def run (kind : Kind) (g : Given) : StateM Process Nat :=
  match conflict? g with
  | some message => refuse message
  | none =>
    if g.has 'c' then checkAll (checkingOf g) kind g.operands
    else
      let layout : Layout :=
        { tagged := g.has 'T', binary := g.lastOf ['b', 't'] == some 'b', nul := g.has 'z' }
      printAll kind layout g.operands

/-- The options of a tool for one kind of digest. -/
def options : List KnownOption :=
  [flag 'b' ["binary"], named 'T' "tag", flag 't' ["text"], flag 'z' ["zero"]] ++ checkOptions

/-- The tool for a kind of digest. -/
def tool (kind : Kind) : Tool :=
  withOptions options (run kind)

/-- The number of bits that an option gives, or what is wrong with it. -/
def lengthOf (g : Given) : Except (List Octets) Nat :=
  match g.value? 'l' with
  | none => .ok 512
  | some text =>
    let n := number text
    if text.isEmpty || !text.all Char.isDigit then
      .error ["invalid length: ".toList ++ Quoting.value text]
    else if 512 < n then
      .error ["invalid length: ".toList ++ Quoting.value text,
        "maximum digest length for 'BLAKE2b' is 512 bits".toList]
    else if n % 8 ≠ 0 then
      .error ["invalid length: ".toList ++ Quoting.value text,
        "length is not a multiple of 8".toList]
    else .ok (if n = 0 then 512 else n)

/-- Goes on with the digest BLAKE2b of the length that an option gives. -/
def withLength (g : Given) (go : Kind → StateM Process Nat) : StateM Process Nat := do
  match lengthOf g with
  | .ok bits => go (blake2 bits)
  | .error messages => do
    messages.forM fault
    pure 1

/-- A sum of a file as it is printed, given whether names are shown. -/
def sumLine (kind : String) (named : Bool) (path text : Octets) : Octets :=
  let bytes := text.toBytes
  let size := bytes.length
  let name := if named then ' ' :: path else []
  let body : Octets :=
    match kind with
    | "crc" => decimal (Digest.remainder bytes) ++ ' ' :: decimal size
    | "bsd" =>
      let sum := decimal (Digest.turningSum bytes)
      List.replicate (5 - sum.length) '0' ++ sum ++ ' ' ::
        rightAligned 5 (decimal ((size + 1023) / 1024))
    | _ => decimal (Digest.foldedSum bytes) ++ ' ' :: decimal ((size + 511) / 512)
  body ++ name ++ ['\n']

/-- Prints sums of files. -/
def sums (kind : String) (paths : List Octets) : StateM Process Nat :=
  overAll (if paths.isEmpty then [['-']] else paths) fun path => do
    match ← readSource path with
    | .ok text => do
      say (sumLine kind (!paths.isEmpty) path text)
      pure 0
    | .error u => do
      fault u.report
      pure 1

/-- The kinds of digests and sums that `cksum` knows, by their names. -/
def kinds : List (String × Option Kind) :=
  [("bsd", none), ("sysv", none), ("crc", none), ("md5", some md5), ("sha1", some sha1),
    ("sha224", some sha224), ("sha256", some sha256), ("sha384", some sha384),
    ("sha512", some sha512), ("blake2b", some (blake2 512)), ("sm3", none)]

end Digests

open Digests in
/-- Prints the digest BLAKE2b of files, or checks it. -/
def b2sum : Tool :=
  withOptions (valued 'l' ["length"] :: options) fun g => withLength g fun kind => run kind g

open Digests in
/-- Prints a sum or a digest of files. -/
def cksum : Tool :=
  withOptions ([valued 'a' ["algorithm"], named 'B' "base64", named 'd' "debug",
    valued 'l' ["length"], named 'R' "raw", named 'U' "untagged"] ++ options) fun g =>
  orMisuse (choiceOf "algorithm" (kinds.map fun (name, _) => [name])
    ((g.value? 'a').getD "crc".toList)) fun name => do
    let print (kind : Kind) : StateM Process Nat :=
      if g.has 'c' then checkAll (checkingOf g) kind g.operands
      else
        let layout : Digests.Layout :=
          { tagged := g.lastOf ['T', 'U'] != some 'U', binary := g.has 'b', nul := g.has 'z'
            base64 := g.has 'B', raw := g.has 'R' }
        printAll kind layout g.operands
    match kinds.lookup name with
    | some (some kind) => if name = "blake2b" then withLength g print else print kind
    | _ => sums name g.operands

open Digests in
/-- Prints sums of files. -/
def sum : Tool :=
  withOptions [flag 'r', flag 's' ["sysv"]] fun g =>
    sums (if g.lastOf ['r', 's'] == some 's' then "sysv" else "bsd") g.operands

end Fleet.Tools
