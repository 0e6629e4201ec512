import Fleet.Tools.Ordering

/-!
# Prime factors

A tool that prints the prime factors of numbers. Small factors are found by division, larger ones
by walks that meet modulo a factor; whether a number is prime is found out by tests with several
bases.
-/

namespace Fleet.Tools

open Shell

namespace Factors

/-- A power modulo a number; the exponent has at most the given number of binary digits. -/
def powerMod (m : Nat) : Nat → Nat → Nat → Nat
  | 0, _, _ => 1 % m
  | fuel + 1, base, exponent =>
    if exponent = 0 then 1 % m
    else
      let half := powerMod m fuel (base * base % m) (exponent / 2)
      if exponent % 2 = 1 then base * half % m else half

/-- A number without its factors 2, and how many there were; at most the given number. -/
def halvings : Nat → Nat → Nat × Nat
  | 0, n => (n, 0)
  | fuel + 1, n =>
    if n % 2 = 0 then
      let (odd, count) := halvings fuel (n / 2)
      (odd, count + 1)
    else (n, 0)

/-- Whether squaring a number leads to the one before the modulus; at most the given number of
squares is looked at. -/
def reachesMinusOne (m : Nat) : Nat → Nat → Bool
  | 0, _ => false
  | fuel + 1, x => x == m - 1 || reachesMinusOne m fuel (x * x % m)

/-- The bases of the tests. -/
def bases : List Nat :=
  [2, 3, 5, 7, 11, 13, 17, 19, 23, 29, 31, 37, 41, 43, 47, 53]

/-- Whether an odd number that is larger than the bases is prime. -/
def isPrime (n : Nat) : Bool :=
  let size := Nat.log2 n + 1
  let (odd, count) := halvings size (n - 1)
  bases.all fun base =>
    let x := powerMod n size base odd
    x == 1 || reachesMinusOne n count x

/-- A factor of a number that is not prime: two walks that start at the same place, one twice as
fast, meet modulo a factor. At most the given number of steps is made. -/
def walk (n shift : Nat) : Nat → Nat → Nat → Option Nat
  | 0, _, _ => none
  | fuel + 1, slow, fast =>
    let step (x : Nat) : Nat := (x * x + shift) % n
    let slow := step slow
    let fast := step (step fast)
    let common := Nat.gcd (if slow < fast then fast - slow else slow - fast) n
    if common = 1 then walk n shift fuel slow fast
    else if common = n then none
    else some common

/-- A factor of a number that is not prime, with the first shift of a list that leads to one. -/
def divisor? (n : Nat) (shifts : List Nat) : Option Nat :=
  shifts.findSome? fun shift => walk n shift 2000000 2 2

/-- The prime factors of a number without small factors, in any order; at most the given number of
times it is split. -/
def large : Nat → Nat → List Nat
  | 0, n => [n]
  | fuel + 1, n =>
    if n ≤ 1 then []
    else if isPrime n then [n]
    else
      match divisor? n [1, 3, 5, 7, 11] with
      | some d => large fuel d ++ large fuel (n / d)
      | none => [n]

/-- The factors of a number from a divisor on, as long as their squares are not larger, and what is
left of it; at most the given number of steps is made. -/
def small : Nat → Nat → Nat → List Nat × Nat
  | 0, _, n => ([], n)
  | fuel + 1, d, n =>
    if n < d * d then ([], n)
    else if n % d = 0 then
      let (factors, rest) := small fuel d (n / d)
      (d :: factors, rest)
    else small fuel (if d = 2 then 3 else d + 2) n

/-- The prime factors of a number, in order. -/
def ofNumber (n : Nat) : List Nat :=
  if n ≤ 1 then []
  else
    let (factors, rest) := small 4000 2 n
    let more :=
      if rest ≤ 1 then []
      else if rest < 3000 * 3000 then [rest]
      else (large 64 rest).mergeSort
    factors ++ more

/-- Factors with their exponents. -/
def shown (exponents : Bool) (factors : List Nat) : Octets :=
  if exponents then
    ((factors.splitBy (· == ·)).map fun group =>
      let power := if group.length = 1 then [] else '^' :: decimal group.length
      ' ' :: decimal (group.headD 1) ++ power).flatten
  else (factors.map fun n => ' ' :: decimal n).flatten

/-- The line with the factors of the number that a text shows. -/
def line? (exponents : Bool) (text : Octets) : Option Octets :=
  let bare := text.dropWhile (· == ' ')
  let digits := if bare.head? == some '+' then bare.tail else bare
  if digits.isEmpty || !digits.all Char.isDigit then none
  else
    let n := number digits
    some (decimal n ++ ':' :: shown exponents (ofNumber n) ++ ['\n'])

/-- Prints the factors of numbers, after all texts that are none were reported. -/
def print (exponents : Bool) (texts : List Octets) : StateM Process Nat := do
  let lines := texts.map fun text => (text, line? exponents text)
  let code ← overAll lines fun (text, line) =>
    match line with
    | some _ => pure 0
    | none => do
      fault (Quoting.value text ++ " is not a valid positive integer".toList)
      pure 1
  say (lines.filterMap Prod.snd).flatten
  pure code

end Factors

/-- Prints the prime factors of numbers. -/
def factor : Tool :=
  withOptions [flag 'h' ["exponents"]] fun g => do
  if g.operands.isEmpty then
    match (← get).inputFault? with
    | some e => do
      fault ("error reading input: ".toList ++ e.description.toList)
      pure 1
    | none => do
      let (text, p) := (← get).readAll 0
      set p
      Factors.print (g.has 'h') (wordsOf text)
  else Factors.print (g.has 'h') g.operands

end Fleet.Tools
