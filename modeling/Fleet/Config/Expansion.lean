import Fleet.Config.Environment
import Fleet.Text.Alphanumeric
import Fleet.Text.Blank
import Fleet.Text.Quoted

/-!
# Variables in configured paths

A path in a configuration may start in the home directory, written `~`, and may use environment
variables, written `$name`, `${name}` or `${name:-text}`, the text being what stands in for a
variable that is not set. Two dollar signs stand for one.
-/

namespace Fleet

/-- Why the value of a variable cannot be used. -/
inductive VariableFault : Type where
  /-- The variable is not set. -/
  | unset
  /-- The value is not text. -/
  | notText (value : Bytes)
  deriving Repr, DecidableEq

/-- A variable whose value cannot be used. -/
structure ExpansionError : Type where
  name : String
  fault : VariableFault
  deriving Repr, DecidableEq

namespace Text

/-- The two upper-case hexadecimal digits of an octet. -/
def octetDigits (b : UInt8) : String :=
  let digit (n : Nat) : Char := Char.toUpper (Nat.digitChar n)
  String.ofList [digit (b.toNat / 16), digit (b.toNat % 16)]

/-- Octets between double quotes: text is shown as usual, and octets that are not part of any are
shown by their numbers. At most the given number of faults is looked for. -/
def quotedParts : Nat → Bytes → String
  | 0, _ => ""
  | n + 1, bytes =>
    match decodeUtf8 bytes with
    | .ok s => String.join (s.toList.map escape)
    | .error e =>
      let good := (decodeUtf8? (bytes.take e.validUpTo)).getD ""
      let bad := (bytes.drop e.validUpTo).take
        (e.faultLength.getD (bytes.length - e.validUpTo))
      String.join (good.toList.map escape) ++
        String.join (bad.map fun b => "\\x" ++ octetDigits b) ++
        quotedParts n (bytes.drop (e.validUpTo + bad.length))

/-- Octets between double quotes. -/
def quotedBytes (bytes : Bytes) : String :=
  "\"" ++ quotedParts (bytes.length + 1) bytes ++ "\""

end Text

namespace ExpansionError

/-- The sentence that reports the failure. -/
def message (e : ExpansionError) : String :=
  "error looking key '" ++ e.name ++ "' up: " ++
    match e.fault with
    | .unset => "environment variable not found"
    | .notText value => "environment variable was not valid unicode: " ++ Text.quotedBytes value

end ExpansionError

namespace Environment

/-- The value of a variable, or why it cannot be used. -/
def lookup (e : Environment) (name : String) : Except ExpansionError String :=
  match e.octets? name with
  | none => .error ⟨name, .unset⟩
  | some value => (Text.decodeUtf8 value).mapError fun _ => ⟨name, .notText value⟩

/-- The home directory of the account, for when no variable names one. -/
def accountHome : String :=
  "/root"

/-- The home directory; none if it is not text. -/
def home? (e : Environment) : Option String :=
  match e.octets? "HOME" with
  | none | some [] => some accountHome
  | some value => Text.decodeUtf8? value

/-- A path with a `~` in front, alone or before a slash, replaced by the home directory. -/
def expandHome (e : Environment) (path : String) : String :=
  match path.toList with
  | '~' :: rest =>
    if rest.isEmpty || rest.head? == some '/' then
      match e.home? with
      | some home => home ++ String.ofList rest
      | none => path
    else path
  | _ => path

/-- A character of a variable's name that stands without braces. -/
def isVariableChar (c : Char) : Bool :=
  Text.isLetterOrDigit c || c == '_'

/-- What stands between braces: the name, and the text that stands in for the value. The name
before a `:-` must not be empty. -/
def splitDefault (inner : List Char) : List Char × Option (List Char) :=
  go [] inner
where
  /-- The name so far is kept with its last character first. -/
  go (name : List Char) : List Char → List Char × Option (List Char)
    | ':' :: '-' :: rest => if name.isEmpty then (inner, none) else (name.reverse, some rest)
    | c :: rest => go (c :: name) rest
    | [] => (inner, none)

/-- The value of a variable, or the text that stands in for it. -/
def valueOr (e : Environment) (name : List Char) (standIn : Option (List Char)) :
    Except ExpansionError (List Char) :=
  match e.lookup (String.ofList name), standIn with
  | .ok value, _ => .ok value.toList
  | .error _, some standIn => .ok standIn
  | .error fault, none => .error fault

theorem length_dropWhile_le {α : Type} (p : α → Bool) (xs : List α) :
    (xs.dropWhile p).length ≤ xs.length :=
  (List.dropWhile_sublist p).length_le

/-- Characters with their variables replaced. -/
def expandChars (e : Environment) : List Char → Except ExpansionError (List Char)
  | [] => .ok []
  | '$' :: '$' :: rest => do pure ('$' :: (← expandChars e rest))
  | '$' :: '{' :: rest =>
    if rest.contains '}' then do
      let (name, standIn) := splitDefault (rest.takeWhile (· ≠ '}'))
      let value ← e.valueOr name standIn
      pure (value ++ (← expandChars e (rest.dropWhile (· ≠ '}')).tail))
    else do pure ('$' :: '{' :: (← expandChars e rest))
  | '$' :: rest =>
    if (rest.head?.map isVariableChar).getD false then do
      let value ← e.valueOr (rest.takeWhile isVariableChar) none
      pure (value ++ (← expandChars e (rest.dropWhile isVariableChar)))
    else do pure ('$' :: (← expandChars e rest))
  | c :: rest => do pure (c :: (← expandChars e rest))
termination_by cs => cs.length
decreasing_by
  all_goals simp only [List.length_cons, List.length_tail]
  · omega
  · have le := length_dropWhile_le (fun c : Char => decide (c ≠ '}')) rest
    omega
  · omega
  · have le := length_dropWhile_le isVariableChar rest
    omega
  · omega
  · omega

/-- A path with its variables replaced, and then its home directory, unless it is only a variable
that brings in the `~`. -/
def expandPath (e : Environment) (path : String) : Except ExpansionError String := do
  let expanded := String.ofList (← e.expandChars path.toList)
  if path.toList.head? == some '~' then pure (e.expandHome expanded) else pure expanded

/-- The shell to use where none is asked for. -/
def usualShell : String :=
  "/bin/sh"

/-- The shell to use: the one asked for, else the one that `SHELL` names, else the usual one. Only
blanks are as good as nothing. -/
def hostShell (e : Environment) (wanted : Option String) : String :=
  let named (s : Option String) : Option String := (s.map Text.trim).filter (· ≠ "")
  match (named wanted).or (named (e.get? "SHELL")) with
  | some shell => e.expandHome shell
  | none => usualShell

end Environment

end Fleet
