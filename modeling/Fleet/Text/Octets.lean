import Fleet.Text.Utf8

/-!
# Octets and groups of them

Octets as characters, and lists cut into groups.
-/

/-!
## Octet strings

The shell and its tools work on octets, not on characters. An octet string is written as a list of
characters below 256, one for each octet, so that ASCII text looks the same in both.
-/

namespace Fleet

/-- A string of octets, each as the character of that number. -/
abbrev Octets : Type :=
  List Char

namespace Octets

/-- Octets as characters. -/
def ofBytes (bytes : Bytes) : Octets :=
  bytes.map fun b => Char.ofNat b.toNat

/-- Characters as octets. -/
def toBytes (octets : Octets) : Bytes :=
  octets.map fun c => UInt8.ofNat c.toNat

/-- The octets of a text. -/
def ofText (s : String) : Octets :=
  ofBytes (Text.encodeUtf8 s)

/-- The text of octets; octets that are no text stand for themselves. -/
def toText (octets : Octets) : String :=
  (Text.decodeUtf8? octets.toBytes).getD (String.ofList octets)

end Octets

/-!
## Groups of items
-/

/-- Items in groups of a size, the last of which may be smaller; at most the given number. -/
def groupsUpTo {α : Type} (size : Nat) : Nat → List α → List (List α)
  | 0, _ => []
  | _, [] => []
  | n + 1, items => items.take size :: groupsUpTo size n (items.drop size)

/-- Items in groups of a size, the last of which may be smaller. -/
def groups {α : Type} (size : Nat) (items : List α) : List (List α) :=
  groupsUpTo size items.length items

end Fleet
