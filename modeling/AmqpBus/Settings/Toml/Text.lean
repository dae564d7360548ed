import AmqpBus.Text.Digits

/-!
# Strings and keys of TOML

A basic string stands in double quotes and has escapes, a literal one stands in single
quotes and has none; each has a long form in three quotes that may span lines.  A reader
takes the characters after the opening quotes and gives the content with what follows the
closing ones.
-/

namespace AmqpBus.Settings.Toml

/-- Whether a character is a control character other than the tab. -/
def isControl (c : Char) : Bool := (c.toNat < 0x20 && c != '\t') || c.toNat = 0x7F

/-- The blanks within a line. -/
def isBlank (c : Char) : Bool := c == ' ' || c == '\t'

/-- The character that a one-letter escape stands for. -/
def escaped? (c : Char) : Option Char :=
  [('b', '\x08'), ('t', '\t'), ('n', '\n'), ('f', '\x0c'), ('r', '\r'), ('"', '"'),
    ('\\', '\\')].lookup c

/-- The character with a hexadecimal code, which must not be a surrogate. -/
def coded? (digits : List Char) : Option Char := do
  let code ← Text.hexadecimal? digits
  if code.isValidChar then some (Char.ofNat code) else none

/-- What a reader gives: the content and the characters after it. -/
abbrev Content := Option (List Char × List Char)

/-- The content with a character in front. -/
def Content.after (content : Content) (c : Char) : Content :=
  content.map fun r => (c :: r.1, r.2)

/-- The content of a basic string. -/
def basic : List Char → Content
  | '"' :: cs => some ([], cs)
  | '\\' :: 'u' :: a :: b :: c :: d :: cs => do
    Content.after (basic cs) (← coded? [a, b, c, d])
  | '\\' :: 'U' :: a :: b :: c :: d :: e :: f :: g :: h :: cs => do
    Content.after (basic cs) (← coded? [a, b, c, d, e, f, g, h])
  | '\\' :: c :: cs => do Content.after (basic cs) (← escaped? c)
  | c :: cs => if isControl c then none else (basic cs).after c
  | [] => none

/-- The content of a literal string. -/
def literal : List Char → Content
  | '\x27' :: cs => some ([], cs)
  | c :: cs => if isControl c then none else (literal cs).after c
  | [] => none

/-- Whether a backslash ends its line, seen from the characters after it. -/
def endsLine (cs : List Char) : Bool :=
  match cs.dropWhile isBlank with
  | '\n' :: _ => true
  | '\r' :: '\n' :: _ => true
  | _ => false

/-- The content of a long basic string.  The flag tells that blanks and line ends are
skipped, as they are after a backslash at the end of a line.  Two quotes before the
closing ones belong to the content. -/
def longBasic (skipping : Bool) : List Char → Content
  | '"' :: '"' :: '"' :: '"' :: '"' :: cs => some (['"', '"'], cs)
  | '"' :: '"' :: '"' :: '"' :: cs => some (['"'], cs)
  | '"' :: '"' :: '"' :: cs => some ([], cs)
  | '\\' :: 'u' :: a :: b :: c :: d :: cs => do
    Content.after (longBasic false cs) (← coded? [a, b, c, d])
  | '\\' :: 'U' :: a :: b :: c :: d :: e :: f :: g :: h :: cs => do
    Content.after (longBasic false cs) (← coded? [a, b, c, d, e, f, g, h])
  | '\\' :: c :: cs =>
    if endsLine (c :: cs) then longBasic true (c :: cs)
    else do Content.after (longBasic false cs) (← escaped? c)
  | '\r' :: '\n' :: cs =>
    if skipping then longBasic true cs else (longBasic false cs).after '\n'
  | '\n' :: cs => if skipping then longBasic true cs else (longBasic false cs).after '\n'
  | c :: cs =>
    if isControl c then none
    else if skipping && isBlank c then longBasic true cs
    else (longBasic false cs).after c
  | [] => none

/-- The content of a long literal string. -/
def longLiteral : List Char → Content
  | '\x27' :: '\x27' :: '\x27' :: '\x27' :: '\x27' :: cs => some (['\x27', '\x27'], cs)
  | '\x27' :: '\x27' :: '\x27' :: '\x27' :: cs => some (['\x27'], cs)
  | '\x27' :: '\x27' :: '\x27' :: cs => some ([], cs)
  | '\r' :: '\n' :: cs => (longLiteral cs).after '\n'
  | '\n' :: cs => (longLiteral cs).after '\n'
  | c :: cs => if isControl c then none else (longLiteral cs).after c
  | [] => none

/-- The characters after the line end that may follow the opening quotes of a long
string. -/
def dropLineEnd : List Char → List Char
  | '\n' :: cs => cs
  | '\r' :: '\n' :: cs => cs
  | cs => cs

/-- The content of a string of any form. -/
def string? : List Char → Content
  | '"' :: '"' :: '"' :: cs => longBasic false (dropLineEnd cs)
  | '"' :: cs => basic cs
  | '\x27' :: '\x27' :: '\x27' :: cs => longLiteral (dropLineEnd cs)
  | '\x27' :: cs => literal cs
  | _ => none

/-- Whether a character may stand in a key without quotes. -/
def isBare (c : Char) : Bool := c.isAlphanum || c == '_' || c == '-'

/-- One part of a key: a string in single lines or a bare word. -/
def keyPart? : List Char → Content
  | '"' :: cs => basic cs
  | '\x27' :: cs => literal cs
  | cs =>
    let word := cs.takeWhile isBare
    if word.isEmpty then none else some (word, cs.dropWhile isBare)

/-- The parts of a key, which are joined by points with blanks around them, read with at
most `fuel` of them. -/
def keyWithin? : Nat → List Char → Option (List String × List Char)
  | 0, _ => none
  | fuel + 1, cs => do
    let (part, rest) ← keyPart? (cs.dropWhile isBlank)
    match rest.dropWhile isBlank with
    | '.' :: more =>
      let (parts, rest) ← keyWithin? fuel more
      return (String.ofList part :: parts, rest)
    | rest => return ([String.ofList part], rest)

/-- The most parts that a key may have. -/
def mostParts : Nat := 79

/-- The parts of a key. -/
def key? (cs : List Char) : Option (List String × List Char) := keyWithin? mostParts cs

end AmqpBus.Settings.Toml
