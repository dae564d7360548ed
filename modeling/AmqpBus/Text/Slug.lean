import AmqpBus.Text.Letters
import AmqpBus.Text.LetterCase

/-!
# Slugs

A slug is the lower-case form of a name with its words joined by underscores, fit for
the names of exchanges and queues: `Shop.Orders` becomes `shop_orders`, and
`PlaceHTTPOrder` becomes `place_http_order`.
-/

namespace AmqpBus.Text

/-- Whether an upper-case letter starts a new word between the characters `before` and
`after`: it follows a lower-case letter or a digit, or it is the last capital of a
run of capitals and belongs to the word it opens. -/
def opensWord (before : Option Char) (after : Option Char) : Bool :=
  before.any fun b =>
    isLowercase b || b.isDigit || (isUppercase b && after.any isLowercase)

/-- Writes the slug of the characters that follow `before`.  The flag `begun` tells
whether a letter has been written, and `gap` whether a separator has come since. -/
def slugAfter (before : Option Char) (begun gap : Bool) : List Char → List Char
  | [] => []
  | c :: cs =>
    if isAlphanumeric c then
      let cut := gap || (isUppercase c && opensWord before cs.head?)
      (if begun && cut then ['_'] else []) ++ lowercase c ++ slugAfter (some c) true false cs
    else
      slugAfter (some c) begun true cs

/-- The words of a name in lower case, joined by underscores. -/
def slug (name : String) : String :=
  String.ofList (slugAfter none false false name.toList)

end AmqpBus.Text
