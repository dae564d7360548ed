/-!
# Faults in UTF-8

A character is a lead byte and up to three further bytes, each within a range that the
lead byte sets; `utf8Fault?` tells where bytes first leave these ranges.
-/

namespace AmqpBus.Text

/-- A range of bytes, with both ends. -/
structure ByteRange where
  low : UInt8
  high : UInt8

/-- Whether a byte is in a range. -/
def ByteRange.has (range : ByteRange) (b : UInt8) : Bool := range.low ≤ b && b ≤ range.high

/-- The ranges of the bytes that follow a lead byte.  They leave out long forms of short
characters, surrogates, and all above the last character. -/
def following? (lead : UInt8) : Option (List ByteRange) :=
  let any : ByteRange := ⟨0x80, 0xBF⟩
  if lead ≤ 0x7F then some []
  else if lead < 0xC2 then none
  else if lead ≤ 0xDF then some [any]
  else if lead = 0xE0 then some [⟨0xA0, 0xBF⟩, any]
  else if lead = 0xED then some [⟨0x80, 0x9F⟩, any]
  else if lead ≤ 0xEF then some [any, any]
  else if lead = 0xF0 then some [⟨0x90, 0xBF⟩, any, any]
  else if lead ≤ 0xF3 then some [any, any, any]
  else if lead = 0xF4 then some [⟨0x80, 0x8F⟩, any, any]
  else none

/-- How bytes fail to be UTF-8: how many bytes of text there are in front, and how many
bytes after them make no character.  The second number is missing when the bytes end
within a character. -/
structure Utf8Fault where
  position : Nat
  length : Option Nat
  deriving DecidableEq

/-- The first fault in bytes, after `read` bytes of the character that starts at
`position` and lacks bytes of `ranges`. -/
def Utf8Fault.search (position read : Nat) : List ByteRange → List UInt8 → Option Utf8Fault
  | [], [] => none
  | _ :: _, [] => some ⟨position, none⟩
  | [], b :: bytes =>
    match following? b with
    | none => some ⟨position + read, some 1⟩
    | some ranges => search (position + read) 1 ranges bytes
  | range :: ranges, b :: bytes =>
    if range.has b then search position (read + 1) ranges bytes
    else some ⟨position, some read⟩

/-- The first fault in bytes. -/
def utf8Fault? (bytes : List UInt8) : Option Utf8Fault := Utf8Fault.search 0 0 [] bytes

end AmqpBus.Text
