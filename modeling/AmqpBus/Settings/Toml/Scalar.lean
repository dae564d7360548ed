import AmqpBus.Settings.Setting
import AmqpBus.Settings.Toml.Moment

/-!
# Scalars of TOML

Words, numbers, dates and times.  Digits may be grouped by single underscores.  Dates
and times are kept as texts.
-/

namespace AmqpBus.Settings.Toml

open Number (Double)

/-- Removes underscores, each of which must stand between two digits. -/
def ungrouped? (isDigit : Char → Bool) : List Char → Option (List Char)
  | [] => some []
  | [c] => if isDigit c then some [c] else none
  | c :: '_' :: d :: cs =>
    if isDigit c && isDigit d then (ungrouped? isDigit (d :: cs)).map (c :: ·) else none
  | c :: cs => if isDigit c then (ungrouped? isDigit cs).map (c :: ·) else none

/-- The number of a group of decimal digits, which must not be empty. -/
def grouped? (cs : List Char) : Option (List Char) :=
  if cs.isEmpty then none else ungrouped? Char.isDigit cs

/-- The number of digits in another base after its mark. -/
def based? (base : Nat) (cs : List Char) : Option Int := do
  let isDigit (c : Char) : Bool := (Text.hexDigit? c).any (· < base)
  if cs.isEmpty then none
  else
    let digits ← (← ungrouped? isDigit cs).mapM Text.hexDigit?
    return Text.ofDigits base digits

/-- Whether digits start with a zero that says nothing. -/
def hasLeadingZero : List Char → Bool
  | '0' :: _ :: _ => true
  | _ => false

/-- A sign and what follows it. -/
def signed : List Char → Bool × List Char
  | '-' :: cs => (true, cs)
  | '+' :: cs => (false, cs)
  | cs => (false, cs)

/-- The exponent of a number, with its mark, or nothing. -/
def exponent? : List Char → Option Int
  | [] => some 0
  | c :: cs =>
    if c = 'e' ∨ c = 'E' then do
      let (negative, digits) := signed cs
      let n ← Text.decimal? (← grouped? digits)
      return if negative then -(n : Int) else n
    else none

/-- A decimal integer or a double.  A number above all doubles is refused, and one below
all is an infinity. -/
def number? (cs : List Char) : Option Setting := do
  let (negative, cs) := signed cs
  if cs = ['i', 'n', 'f'] then return .real (.infinite negative)
  if cs = ['n', 'a', 'n'] then return .real .nan
  let inGroup (c : Char) : Bool := c.isDigit || c == '_'
  let whole ← grouped? (cs.takeWhile inGroup)
  if hasLeadingZero whole then none else
  match cs.dropWhile inGroup with
  | [] =>
    let n ← Text.decimal? whole
    let i : Int := if negative then -(n : Int) else n
    if Number.isSigned 64 i then some (.integer i) else none
  | '.' :: rest =>
    let places ← grouped? (rest.takeWhile inGroup)
    let e ← exponent? (rest.dropWhile inGroup)
    written? (Double.ofDecimal negative (← Text.decimal? (whole ++ places)) (e - places.length))
  | rest =>
    written? (Double.ofDecimal negative (← Text.decimal? whole) (← exponent? rest))
where
  written? : Double → Option Setting
    | .infinite false => none
    | value => some (.real value)

/-- The scalar that a word stands for. -/
def scalar? : List Char → Option Setting
  | ['t', 'r', 'u', 'e'] => some (.bool true)
  | ['f', 'a', 'l', 's', 'e'] => some (.bool false)
  | '0' :: 'x' :: cs => inRange (based? 16 cs)
  | '0' :: 'o' :: cs => inRange (based? 8 cs)
  | '0' :: 'b' :: cs => inRange (based? 2 cs)
  | cs =>
    match number? cs with
    | some setting => some setting
    | none => (Clock.ofDay.moment? cs).map fun m => .text (String.ofList m)
where
  inRange (i : Option Int) : Option Setting := (i.filter (Number.isSigned 64)).map .integer

/-- Whether a character may stand in a scalar. -/
def isScalarPart (c : Char) : Bool := c.isAlphanum || ['+', '-', '_', '.', ':'].contains c

/-- The word of a scalar, which may hold one blank between a date and a time, and what
follows it. -/
def word (cs : List Char) : List Char × List Char :=
  let first := cs.takeWhile isScalarPart
  match date? first, cs.dropWhile isScalarPart with
  | some (_, []), ' ' :: d :: rest =>
    if d.isDigit then
      (first ++ ' ' :: (d :: rest).takeWhile isScalarPart, (d :: rest).dropWhile isScalarPart)
    else (first, ' ' :: d :: rest)
  | _, rest => (first, rest)

end AmqpBus.Settings.Toml
