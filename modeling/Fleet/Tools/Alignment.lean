import Fleet.Text.Octets

/-!
# Alignments

How one sequence of lines becomes another with as few lines as possible taken out and put in. Lines
are given by numbers that are the same for lines that count as equal. Two searches, one from the
start and one from the end, meet in the middle of a shortest way; the two halves are aligned in the
same manner. Afterwards each run of changed lines is moved as far down as it can be.
-/

namespace Fleet.Tools.Alignment

/-- Parts of two sequences: from `left` to `right` in the first, from `top` to `bottom` in the
second. -/
structure Box : Type where
  left : Nat
  right : Nat
  top : Nat
  bottom : Nat
  deriving Repr, DecidableEq

/-- What differs: where in the two sequences, and how many lines are taken out and put in. -/
structure Hunk : Type where
  first : Nat
  second : Nat
  removed : Nat
  added : Nat
  deriving Repr, DecidableEq

/-! ## The middle of a shortest way -/

/-- How far a search has come on each diagonal, and the diagonals that it has reached. -/
structure Frontier : Type where
  places : Array Int
  low : Int
  high : Int
  deriving Repr

/-- Two sequences of which a part is searched. -/
structure Search : Type where
  first : Array Nat
  second : Array Nat
  box : Box
  deriving Repr

namespace Search

/-- Where a diagonal stands among the places. -/
def slot (s : Search) (diagonal : Int) : Nat :=
  (diagonal + s.second.size + 1).toNat

/-- How far a search has come on a diagonal. -/
def place (s : Search) (f : Frontier) (diagonal : Int) : Int :=
  f.places.getD (s.slot diagonal) 0

/-- The frontier with a place on a diagonal. -/
def mark (s : Search) (f : Frontier) (diagonal place : Int) : Frontier :=
  { f with places := f.places.set! (s.slot diagonal) place }

/-- Whether lines of the two sequences are the same. -/
def same (s : Search) (x y : Nat) : Bool :=
  s.first.getD x 0 == s.second.getD y 0

/-- The end of the lines that are the same from a place on. -/
def slideDown (s : Search) : Nat → Int → Int → Int
  | 0, x, _ => x
  | n + 1, x, y =>
    if x < s.box.right && y < s.box.bottom && s.same x.toNat y.toNat then
      slideDown s n (x + 1) (y + 1)
    else x

/-- The start of the lines that are the same up to a place. -/
def slideUp (s : Search) : Nat → Int → Int → Int
  | 0, x, _ => x
  | n + 1, x, y =>
    if s.box.left < x && s.box.top < y && s.same (x - 1).toNat (y - 1).toNat then
      slideUp s n (x - 1) (y - 1)
    else x

/-- The frontier with one more diagonal at each end, as far as there are diagonals, whose places
count for nothing. -/
def widen (s : Search) (nowhere : Int) (f : Frontier) : Frontier :=
  let least : Int := s.box.left - s.box.bottom
  let greatest : Int := s.box.right - s.box.top
  let f :=
    if least < f.low then s.mark { f with low := f.low - 1 } (f.low - 2) nowhere
    else { f with low := f.low + 1 }
  if f.high < greatest then s.mark { f with high := f.high + 1 } (f.high + 2) nowhere
  else { f with high := f.high - 1 }

/-- The diagonals of a step, the highest first. -/
def diagonals (f : Frontier) : List Int :=
  (List.range ((f.high - f.low) / 2 + 1).toNat).map fun i => f.high - 2 * Int.ofNat i

/-- The search from the start after a step on some diagonals, or the place where it meets the one
from the end. -/
def stepDown (s : Search) (odd : Bool) (other : Frontier) :
    List Int → Frontier → Except (Nat × Nat) Frontier
  | [], f => .ok f
  | d :: rest, f =>
    let below := s.place f (d - 1)
    let above := s.place f (d + 1)
    let start := if below < above then above else below + 1
    let x := s.slideDown s.box.right start (start - d)
    let f := s.mark f d x
    if odd && other.low ≤ d && d ≤ other.high && s.place other d ≤ x then
      .error (x.toNat, (x - d).toNat)
    else stepDown s odd other rest f

/-- The search from the end after a step on some diagonals, or the place where it meets the one from
the start. -/
def stepUp (s : Search) (odd : Bool) (other : Frontier) :
    List Int → Frontier → Except (Nat × Nat) Frontier
  | [], f => .ok f
  | d :: rest, f =>
    let below := s.place f (d - 1)
    let above := s.place f (d + 1)
    let start := if below < above then below else above - 1
    let x := s.slideUp s.box.right start (start - d)
    let f := s.mark f d x
    if !odd && other.low ≤ d && d ≤ other.high && x ≤ s.place other d then
      .error (x.toNat, (x - d).toNat)
    else stepUp s odd other rest f

/-- Searches from both sides until the searches meet; at most the given number of steps is made. -/
def meet (s : Search) (odd : Bool) : Nat → Frontier → Frontier → Nat × Nat
  | 0, _, _ => (s.box.right, s.box.top)
  | n + 1, down, up =>
    let down := s.widen (-1) down
    match s.stepDown odd up (diagonals down) down with
    | .error middle => middle
    | .ok down =>
      let up := s.widen (s.first.size + s.second.size + 2 : Nat) up
      match s.stepUp odd down (diagonals up) up with
      | .error middle => middle
      | .ok up => meet s odd n down up

/-- The middle of a shortest way through the part. -/
def middle (s : Search) : Nat × Nat :=
  let start : Int := s.box.left - s.box.top
  let stop : Int := s.box.right - s.box.bottom
  let blank := Array.replicate (s.first.size + s.second.size + 3) (0 : Int)
  let down := s.mark { places := blank, low := start, high := start } start s.box.left
  let up := s.mark { places := blank, low := stop, high := stop } stop s.box.right
  s.meet ((start - stop) % 2 ≠ 0) (s.first.size + s.second.size + 2) down up

end Search

/-! ## Lines that change -/

/-- Which lines of the two sequences are taken out and put in. -/
structure Changes : Type where
  first : Array Bool
  second : Array Bool
  deriving Repr

/-- Marks the lines from one number to another. -/
def markRange (flags : Array Bool) (start stop : Nat) : Array Bool :=
  (List.range (stop - start)).foldl (fun flags i => flags.set! (start + i) true) flags

/-- How many lines are the same from two places on; at most the given number is looked at. -/
def equalAhead (a b : Array Nat) (x y : Nat) : Nat → Nat
  | 0 => 0
  | n + 1 => if a.getD x 0 == b.getD y 0 then equalAhead a b (x + 1) (y + 1) n + 1 else 0

/-- How many lines are the same before two places; at most the given number is looked at. -/
def equalBehind (a b : Array Nat) (x y : Nat) : Nat → Nat
  | 0 => 0
  | n + 1 =>
    if a.getD (x - 1) 0 == b.getD (y - 1) 0 then equalBehind a b (x - 1) (y - 1) n + 1 else 0

/-- Marks the lines of parts of two sequences that change. -/
def compare (a b : Array Nat) : Nat → Box → Changes → Changes
  | 0, _, c => c
  | n + 1, box, c =>
    let size (box : Box) : Nat := min (box.right - box.left) (box.bottom - box.top)
    let ahead := equalAhead a b box.left box.top (size box)
    let box := { box with left := box.left + ahead, top := box.top + ahead }
    let behind := equalBehind a b box.right box.bottom (size box)
    let box := { box with right := box.right - behind, bottom := box.bottom - behind }
    if box.left = box.right then { c with second := markRange c.second box.top box.bottom }
    else if box.top = box.bottom then { c with first := markRange c.first box.left box.right }
    else
      let (x, y) := Search.middle { first := a, second := b, box }
      let c := compare a b n { box with right := x, bottom := y } c
      compare a b n { box with left := x, top := y } c

/-- The lines that change. Lines that the other sequence has nowhere are set aside first. -/
def changes (a b : Array Nat) : Changes :=
  let kept (own other : Array Nat) : Array Nat :=
    (Array.range own.size).filter fun i => other.contains (own.getD i 0)
  let keptFirst := kept a b
  let keptSecond := kept b a
  let x := keptFirst.map fun i => a.getD i 0
  let y := keptSecond.map fun i => b.getD i 0
  let unchanged : Changes := ⟨Array.replicate x.size false, Array.replicate y.size false⟩
  let inner := compare x y (x.size + y.size + 1) ⟨0, x.size, 0, y.size⟩ unchanged
  let spread (size : Nat) (places : Array Nat) (flags : Array Bool) : Array Bool :=
    (List.range places.size).foldl (fun all i => all.set! (places.getD i 0) (flags.getD i false))
      (Array.replicate size true)
  ⟨spread a.size keptFirst inner.first, spread b.size keptSecond inner.second⟩

/-! ## Where runs of changed lines lie -/

/-- A run of changed lines that is being moved, with the place in the other sequence that
corresponds to its end. -/
structure Run : Type where
  flags : Array Bool
  start : Nat
  stop : Nat
  place : Nat
  deriving Repr

/-- The first line from a place on that does not change; at most the given number is skipped. -/
def skip (flags : Array Bool) : Nat → Nat → Nat
  | 0, i => i
  | n + 1, i => if flags.getD i false then skip flags n (i + 1) else i

/-- The last line before a place that does not change; at most the given number is skipped. -/
def skipBack (flags : Array Bool) : Nat → Nat → Nat
  | 0, i => i - 1
  | n + 1, i => if 1 < i && flags.getD (i - 1) false then skipBack flags n (i - 1) else i - 1

/-- The start of the run of changed lines that ends before a place. -/
def runStart (flags : Array Bool) : Nat → Nat
  | 0 => 0
  | i + 1 => if flags.getD i false then runStart flags i else i + 1

namespace Run

/-- Moves a run one line up. -/
def up (other : Array Bool) (r : Run) : Run :=
  let flags := (r.flags.set! (r.start - 1) true).set! (r.stop - 1) false
  { flags
    start := runStart flags (r.start - 1)
    stop := r.stop - 1
    place := skipBack other other.size r.place }

/-- Moves a run up as far as it can be; at most the given number of lines. -/
def rise (lines : Array Nat) (other : Array Bool) : Nat → Run → Run
  | 0, r => r
  | n + 1, r =>
    if 0 < r.start && lines.getD (r.start - 1) 0 == lines.getD (r.stop - 1) 0 then
      rise lines other n (r.up other)
    else r

/-- Moves a run down as far as it can be, at most the given number of lines, and says where it last
ended at the same place as changes of the other sequence. -/
def sink (lines : Array Nat) (other : Array Bool) : Nat → Run → Nat → Run × Nat
  | 0, r, corresponding => (r, corresponding)
  | n + 1, r, corresponding =>
    if r.stop < lines.size && lines.getD r.start 0 == lines.getD r.stop 0 then
      let flags := (r.flags.set! r.start false).set! r.stop true
      let stop := skip flags flags.size (r.stop + 1)
      let place := skip other other.size (r.place + 1)
      let corresponding := if r.place + 1 < place then stop else corresponding
      sink lines other n { flags, start := r.start + 1, stop, place } corresponding
    else (r, corresponding)

/-- Moves a run up and down until it does not grow any more; at most the given number of times. -/
def settle (lines : Array Nat) (other : Array Bool) : Nat → Run → Run × Nat
  | 0, r => (r, lines.size)
  | n + 1, r =>
    let length := r.stop - r.start
    let r := r.rise lines other lines.size
    let touches := 0 < r.place && other.getD (r.place - 1) false
    let corresponding := if touches then r.stop else lines.size
    let (r, corresponding) := r.sink lines other lines.size corresponding
    if length = r.stop - r.start then (r, corresponding) else settle lines other n r

/-- Moves a run up to a place. -/
def upTo (other : Array Bool) (corresponding : Nat) : Nat → Run → Run
  | 0, r => r
  | n + 1, r => if corresponding < r.stop then upTo other corresponding n (r.up other) else r

end Run

/-- The changed lines of a sequence after all runs from a line on were moved; at most the given
number of steps is made. -/
def shift (lines : Array Nat) (other : Array Bool) : Nat → Nat → Nat → Array Bool → Array Bool
  | 0, _, _, flags => flags
  | n + 1, i, place, flags =>
    if lines.size ≤ i then flags
    else if !flags.getD i false then
      shift lines other n (i + 1) (skip other other.size place + 1) flags
    else
      let run : Run :=
        { flags, start := i, stop := skip flags flags.size i, place := skip other other.size place }
      let (run, corresponding) := run.settle lines other (lines.size + 1)
      let run := run.upTo other corresponding lines.size
      shift lines other n run.stop run.place run.flags

/-- What differs, from two places on; at most the given number of lines is looked at. -/
def hunksFrom (c : Changes) : Nat → Nat → Nat → List Hunk
  | 0, _, _ => []
  | n + 1, i, j =>
    if c.first.size ≤ i && c.second.size ≤ j then []
    else if c.first.getD i false || c.second.getD j false then
      let x := skip c.first c.first.size i
      let y := skip c.second c.second.size j
      ⟨i, j, x - i, y - j⟩ :: hunksFrom c n (x + 1) (y + 1)
    else hunksFrom c n (i + 1) (j + 1)

/-- What differs between two sequences. -/
def hunks (a b : Array Nat) : List Hunk :=
  let c := changes a b
  let first := shift a c.second (2 * a.size + 1) 0 0 c.first
  let second := shift b first (2 * b.size + 1) 0 0 c.second
  hunksFrom ⟨first, second⟩ (a.size + b.size + 1) 0 0

end Fleet.Tools.Alignment
