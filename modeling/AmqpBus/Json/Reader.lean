import AmqpBus.Json.Token

/-!
# Reading JSON

Tokens are put together into a value by a machine that keeps the lists and records it
is inside of.  It accepts any depth of nesting; `Value.readWithin?` bounds it.
-/

namespace AmqpBus.Json

/-- A list or record that waits for the value being read, with what it holds so far,
latest first. -/
inductive Frame where
  | list (items : List Value)
  | record (members : List (Text × Value)) (name : Text)

/-- A list or record that has just been opened or has just received a value. -/
inductive Container where
  | list (items : List Value)
  | record (members : List (Text × Value))

/-- What may come next: a value; a value or the end of the list just opened; a name, or
also the end of the record just opened; the colon after a name; a comma or the end of
the container; or nothing. -/
inductive Assembly where
  | awaitValue (outer : List Frame)
  | awaitFirst (outer : List Frame)
  | awaitName (outer : List Frame) (members : List (Text × Value)) (mayClose : Bool)
  | awaitColon (outer : List Frame) (members : List (Text × Value)) (name : Text)
  | awaitMore (outer : List Frame) (container : Container)
  | done (value : Value)

namespace Assembly

/-- Hands a finished value to the innermost frame. -/
def supply (value : Value) : List Frame → Assembly
  | [] => .done value
  | .list items :: outer => .awaitMore outer (.list (value :: items))
  | .record members name :: outer => .awaitMore outer (.record ((name, value) :: members))

/-- Reads the first token of a value. -/
def begin (outer : List Frame) : Token → Option Assembly
  | .null => some (supply .null outer)
  | .bool b => some (supply (.bool b) outer)
  | .number n => some (supply (.number n) outer)
  | .text t => some (supply (.text t) outer)
  | .openList => some (.awaitFirst outer)
  | .openRecord => some (.awaitName outer [] true)
  | _ => none

/-- Reads one token. -/
def step : Assembly → Token → Option Assembly
  | .awaitValue outer, token => begin outer token
  | .awaitFirst outer, .closeList => some (supply (.list []) outer)
  | .awaitFirst outer, token => begin (.list [] :: outer) token
  | .awaitName outer members _, .text name => some (.awaitColon outer members name)
  | .awaitName outer _ true, .closeRecord => some (supply (.record []) outer)
  | .awaitColon outer members name, .colon => some (.awaitValue (.record members name :: outer))
  | .awaitMore outer (.list items), .comma => some (.awaitValue (.list items :: outer))
  | .awaitMore outer (.list items), .closeList => some (supply (.list items.reverse) outer)
  | .awaitMore outer (.record members), .comma => some (.awaitName outer members false)
  | .awaitMore outer (.record members), .closeRecord =>
    some (supply (.record members.reverse) outer)
  | _, _ => none

end Assembly

/-- The value that a sequence of tokens makes up. -/
def Value.ofTokens? (tokens : List Token) : Option Value := do
  match ← tokens.foldlM Assembly.step (.awaitValue []) with
  | .done value => some value
  | _ => none

/-- The deepest nesting of brackets in a sequence of tokens, which starts inside `depth`
brackets. -/
def Token.nesting (depth : Nat) : List Token → Nat
  | [] => depth
  | .openList :: tokens => nesting (depth + 1) tokens
  | .openRecord :: tokens => nesting (depth + 1) tokens
  | .closeList :: tokens => max depth (nesting (depth - 1) tokens)
  | .closeRecord :: tokens => max depth (nesting (depth - 1) tokens)
  | _ :: tokens => nesting depth tokens

/-- The value of a JSON text, when it is one value and nothing else but blanks. -/
def Value.read? (bytes : ByteArray) : Option Value := do
  Value.ofTokens? (← Token.scan? bytes.data.toList)

/-- The value of a JSON text that nests lists and records at most `limit` deep. -/
def Value.readWithin? (limit : Nat) (bytes : ByteArray) : Option Value := do
  let tokens ← Token.scan? bytes.data.toList
  if Token.nesting 0 tokens ≤ limit then Value.ofTokens? tokens else none

end AmqpBus.Json
