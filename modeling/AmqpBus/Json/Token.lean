import AmqpBus.Json.Value
import AmqpBus.Text.Digits

/-!
# The tokens of a JSON text

A machine reads a JSON text byte by byte and keeps the tokens read so far.  Between
tokens blanks are skipped; words and numbers are collected up to the first byte that
cannot continue them and are then judged as a whole.  Two of them in a row are never
grammatical, so collecting too much loses nothing.
-/

namespace AmqpBus.Json

/-- A piece of a string: a byte as it stands, or a UTF-16 unit written as an escape. -/
inductive Piece where
  | byte (b : UInt8)
  | unit (u : Nat)

/-- The bytes of a string.  Escaped units come alone or as a high surrogate directly
followed by a low one; a surrogate that has no partner makes the string no text. -/
def Piece.bytes? : List Piece → Option (List UInt8)
  | [] => some []
  | .byte b :: pieces => (Piece.bytes? pieces).map (b :: ·)
  | .unit u :: pieces =>
    if 0xD800 ≤ u ∧ u < 0xDC00 then
      match pieces with
      | .unit v :: pieces =>
        if 0xDC00 ≤ v ∧ v < 0xE000 then
          let c := Char.ofNat (0x10000 + (u - 0xD800) * 0x400 + (v - 0xDC00))
          (Piece.bytes? pieces).map (String.utf8EncodeChar c ++ ·)
        else none
      | _ => none
    else if 0xDC00 ≤ u ∧ u < 0xE000 then none
    else (Piece.bytes? pieces).map (String.utf8EncodeChar (Char.ofNat u) ++ ·)

/-- The text that the pieces of a string make up. -/
def Piece.text (pieces : List Piece) : Text := do
  String.fromUTF8? (← Piece.bytes? pieces).toByteArray

/-- A token of a JSON text. -/
inductive Token where
  | openList
  | closeList
  | openRecord
  | closeRecord
  | comma
  | colon
  | null
  | bool (b : Bool)
  | number (n : Numeral)
  | text (t : Text)

/-- The token a word stands for. -/
def Token.ofWord? (word : List Char) : Option Token :=
  if word = ['n', 'u', 'l', 'l'] then some .null
  else if word = ['t', 'r', 'u', 'e'] then some (.bool true)
  else if word = ['f', 'a', 'l', 's', 'e'] then some (.bool false)
  else none

/-- The exponent of a numeral, which is absent or a mark and an integer. -/
def Numeral.exponentOf? : List Char → Option (Option Int)
  | [] => some none
  | 'e' :: cs => (Text.signedDecimal? cs).map some
  | 'E' :: cs => (Text.signedDecimal? cs).map some
  | _ => none

/-- The unsigned numeral of a number, whose digits before the point have no leading
zero. -/
def Numeral.unsignedOf? (negative : Bool) (cs : List Char) : Option Numeral := do
  let wholeDigits := cs.takeWhile Char.isDigit
  let whole ← Text.decimal? wholeDigits
  if wholeDigits.head? = some '0' ∧ 1 < wholeDigits.length then none else
  match cs.dropWhile Char.isDigit with
  | '.' :: rest =>
    let places := rest.takeWhile Char.isDigit
    let exponent ← exponentOf? (rest.dropWhile Char.isDigit)
    if places.isEmpty then none else
    some ⟨negative, whole, places.filterMap Text.digit?, exponent⟩
  | rest => some ⟨negative, whole, [], ← exponentOf? rest⟩

/-- The number a numeral stands for. -/
def Numeral.ofText? : List Char → Option Numeral
  | '-' :: cs => unsignedOf? true cs
  | cs => unsignedOf? false cs

/-- What the machine is in the middle of. -/
inductive Reading where
  | between
  | word (letters : List Char)
  | numeral (letters : List Char)
  | string (pieces : List Piece)
  | escape (pieces : List Piece)
  | unit (pieces : List Piece) (digits : List Nat)

/-- The machine: what it is in the middle of, and the tokens read so far, latest
first. -/
structure Scan where
  reading : Reading
  tokens : List Token

namespace Scan

/-- Whether a byte may stand in a number. -/
def isNumeral (b : UInt8) : Bool :=
  (Char.ofUInt8 b).isDigit || ['+', '-', '.', 'e', 'E'].contains (Char.ofUInt8 b)

/-- The unit or byte that a one-letter escape stands for. -/
def escaped? (c : Char) : Option UInt8 :=
  [('"', '"'), ('\\', '\\'), ('/', '/'), ('b', '\x08'), ('f', '\x0c'), ('n', '\n'), ('r', '\r'),
    ('t', '\t')].lookup c |>.map Char.toUInt8

/-- Ends the word or number being collected. -/
def settle (scan : Scan) : Option Scan :=
  match scan.reading with
  | .between => some scan
  | .word letters => do
    some ⟨.between, (← Token.ofWord? letters.reverse) :: scan.tokens⟩
  | .numeral letters => do
    some ⟨.between, .number (← Numeral.ofText? letters.reverse) :: scan.tokens⟩
  | _ => none

/-- Reads a byte between two tokens. -/
def start (tokens : List Token) (b : UInt8) : Option Scan :=
  let c := Char.ofUInt8 b
  if [' ', '\t', '\n', '\r'].contains c then some ⟨.between, tokens⟩
  else if c = '"' then some ⟨.string [], tokens⟩
  else if c = '[' then some ⟨.between, .openList :: tokens⟩
  else if c = ']' then some ⟨.between, .closeList :: tokens⟩
  else if c = '\x7b' then some ⟨.between, .openRecord :: tokens⟩
  else if c = '\x7d' then some ⟨.between, .closeRecord :: tokens⟩
  else if c = ',' then some ⟨.between, .comma :: tokens⟩
  else if c = ':' then some ⟨.between, .colon :: tokens⟩
  else if c = '-' || c.isDigit then some ⟨.numeral [c], tokens⟩
  else if c.isAlpha then some ⟨.word [c], tokens⟩
  else none

/-- Reads one byte. -/
def step (scan : Scan) (b : UInt8) : Option Scan :=
  let c := Char.ofUInt8 b
  match scan.reading with
  | .between => start scan.tokens b
  | .word letters =>
    if c.isAlpha then some { scan with reading := .word (c :: letters) }
    else do start (← scan.settle).tokens b
  | .numeral letters =>
    if isNumeral b then some { scan with reading := .numeral (c :: letters) }
    else do start (← scan.settle).tokens b
  | .string pieces =>
    if c = '"' then some ⟨.between, .text (Piece.text pieces.reverse) :: scan.tokens⟩
    else if c = '\\' then some { scan with reading := .escape pieces }
    else if b < 0x20 then none
    else some { scan with reading := .string (.byte b :: pieces) }
  | .escape pieces =>
    if c = 'u' then some { scan with reading := .unit pieces [] }
    else do some { scan with reading := .string (.byte (← escaped? c) :: pieces) }
  | .unit pieces digits => do
    let d ← Text.hexDigit? c
    if digits.length = 3 then
      some { scan with reading := .string (.unit (Text.ofDigits 16 (digits ++ [d])) :: pieces) }
    else some { scan with reading := .unit pieces (digits ++ [d]) }

/-- The machine before the first byte. -/
def initial : Scan := ⟨.between, []⟩

end Scan

/-- The tokens of a JSON text. -/
def Token.scan? (bytes : List UInt8) : Option (List Token) := do
  let scan ← bytes.foldlM Scan.step Scan.initial
  return (← scan.settle).tokens.reverse

end AmqpBus.Json
