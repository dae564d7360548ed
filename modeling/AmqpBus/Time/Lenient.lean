import AmqpBus.Text.Letters
import AmqpBus.Time.Rfc3339

/-!
# Moments as lenient texts

A moment is also read from a text that keeps the order of RFC 3339 but not its widths:
numbers may be short and follow blanks, a year may have a sign and then any number of
digits, and the offset may be the word `UTC` or have any separators.
-/

namespace AmqpBus.Time

/-- The text without the blanks in front. -/
def dropWhite (cs : List Char) : List Char := cs.dropWhile Text.isWhite

/-- A number of one digit up to `width`, after blanks, and what follows it. -/
def number? (width : Nat) (cs : List Char) : Option (Nat × List Char) := do
  let cs := dropWhite cs
  let digits := (cs.take width).takeWhile Char.isDigit
  return (← Text.decimal? digits, cs.drop digits.length)

/-- A year, after blanks, and what follows it. -/
def year? (cs : List Char) : Option (Int × List Char) :=
  match dropWhite cs with
  | '-' :: cs => do
    return (-((← Text.decimal? (cs.takeWhile Char.isDigit)) : Int), cs.dropWhile Char.isDigit)
  | '+' :: cs => do
    return ((← Text.decimal? (cs.takeWhile Char.isDigit)), cs.dropWhile Char.isDigit)
  | cs => do
    let (n, rest) ← number? 4 cs
    return (n, rest)

/-- What follows a mark, which may come after blanks. -/
def after? (mark : Char) (cs : List Char) : Option (List Char) :=
  match dropWhite cs with
  | c :: rest => if c = mark then some rest else none
  | [] => none

/-- The offset that a text starts with, and what follows it. -/
def lenientOffset? (cs : List Char) : Option (Int × List Char) :=
  if (cs.take 3).map Char.toLower = ['u', 't', 'c'] then some (0, cs.drop 3)
  else
    match cs with
    | 'Z' :: rest => some (0, rest)
    | 'z' :: rest => some (0, rest)
    | sign :: h₁ :: h₂ :: rest =>
      match rest.dropWhile fun c => c == ':' || Text.isWhite c with
      | m₁ :: m₂ :: rest => (offsetOf? sign [h₁, h₂] [m₁, m₂]).map (·, rest)
      | _ => none
    | _ => none

/-- Whether a year is among those that are counted with. -/
def inCalendar (year : Int) : Bool := -262143 ≤ year && year ≤ 262142

/-- The moment that a lenient text is. -/
def Moment.ofLenientText? (text : String) : Option Moment := do
  let (year, cs) ← year? text.toList
  let (month, cs) ← number? 2 (← after? '-' cs)
  let (day, cs) ← number? 2 (← after? '-' cs)
  let cs ← match cs with
    | mark :: cs => if mark = 'T' ∨ mark = 't' ∨ mark = ' ' then some cs else none
    | [] => none
  let (hour, cs) ← number? 2 cs
  let (minute, cs) ← number? 2 (← after? ':' cs)
  let (second, cs) ← number? 2 (← after? ':' cs)
  let (nano, cs) ← fraction? cs
  let (offset, cs) ← lenientOffset? (dropWhite cs)
  let moment := Moment.ofLocal (← Date.of? year month day)
    (← TimeOfDay.of? hour minute second nano) offset
  if (dropWhite cs).isEmpty && inCalendar year && inCalendar moment.date.year then some moment
  else none

end AmqpBus.Time
