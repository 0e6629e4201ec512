import Fleet.Tools.Regex

/-!
# Scripts for editing lines

A script is a list of commands, each of which applies to the lines that its addresses select. There
are commands that change the text at hand, exchange it with a second text that is kept, print or
write it, read the next line, or go on somewhere else in the script.
-/

namespace Fleet.Tools.Editing

/-- A regular expression in a script; without one the last that was used is meant. -/
structure Expression : Type where
  regex : Option (Regex.Dialect × Regex)
  deriving Repr

/-- Which lines are selected. -/
inductive Address : Type where
  | line (number : Nat)
  /-- A line and all others at some distance. -/
  | steps (first distance : Nat)
  | last
  | matching (e : Expression)
  deriving Repr

/-- Where a range of lines ends. -/
inductive RangeEnd : Type where
  | address (a : Address)
  /-- So many lines after the first. -/
  | after (count : Nat)
  /-- At the next line whose number is a multiple. -/
  | multiple (of : Nat)
  deriving Repr

/-- Which lines a command applies to. -/
structure Selection : Type where
  first : Option Address := none
  stop : Option RangeEnd := none
  /-- Whether it applies to all other lines. -/
  others : Bool := false
  deriving Repr

/-- A change of letters in a replacement. -/
inductive Casing : Type where
  | upper
  | lower
  | asIs
  /-- Only for the next octet. -/
  | nextUpper
  | nextLower
  deriving Repr, DecidableEq

/-- A piece of a replacement. -/
inductive Piece : Type where
  | octet (c : Char)
  /-- What a group has matched; 0 is the whole match. -/
  | group (index : Nat)
  | casing (c : Casing)
  deriving Repr

/-- How matches are replaced. -/
structure Substitution : Type where
  expression : Expression
  pieces : List Piece
  /-- The number of the first match that is replaced. -/
  first : Nat := 1
  /-- Whether all later ones are, too. -/
  all : Bool := false
  prints : Bool := false
  /-- The file that the text is written to. -/
  file : Option Octets := none
  deriving Repr

/-- When a script goes on at a label. -/
inductive Jump : Type where
  | always
  /-- If something was replaced since the last line was read. -/
  | ifReplaced
  | unlessReplaced
  deriving Repr, DecidableEq

/-- What a command does. -/
inductive Action : Type where
  /-- A group of commands starts; it is over at the closing that belongs to it. -/
  | opening
  | closing
  | label (name : Octets)
  /-- Goes on at a label, or at the end of the script. -/
  | jump (when : Jump) (label : Octets)
  | substitute (s : Substitution)
  | transliterate (pairs : List (Char × Char))
  | insert (text : Octets)
  | append (text : Octets)
  | change (text : Octets)
  /-- Prints a file, or its next line, after the line. -/
  | appendFile (path : Octets)
  | appendLine (path : Octets)
  /-- Writes the text, or its first line, to a file. -/
  | write (path : Octets)
  | writeFirst (path : Octets)
  | print
  | printFirst
  | printNumber
  | printName
  /-- Prints the text with all octets visible, in lines of some width. -/
  | list (width : Option Nat)
  | delete
  | deleteFirst
  | next
  | joinNext
  /-- Takes the second text, or adds it. -/
  | get
  | getAlso
  /-- Keeps the text as the second one, or adds it to that. -/
  | hold
  | holdAlso
  | exchange
  | clear
  /-- The script ends; the text is printed first if nothing speaks against it. -/
  | quit (code : Nat) (prints : Bool)
  deriving Repr

/-- A command of a script. -/
structure Command : Type where
  selection : Selection
  action : Action
  deriving Repr

/-- The place after a group of commands that starts at a place, some groups being open there. -/
def afterGroup (commands : List Command) : Nat → Nat → Nat → Nat
  | 0, _, place => place
  | n + 1, depth, place =>
    match commands[place]? with
    | none => place
    | some ⟨_, .opening⟩ => afterGroup commands n (depth + 1) (place + 1)
    | some ⟨_, .closing⟩ =>
      if depth ≤ 1 then place + 1 else afterGroup commands n (depth - 1) (place + 1)
    | some _ => afterGroup commands n depth (place + 1)

/-- The place after a label. -/
def labelPlace? (commands : List Command) (name : Octets) : Option Nat :=
  (commands.findIdx? fun c =>
    match c.action with
    | .label own => own == name
    | _ => false).map (· + 1)

end Fleet.Tools.Editing
