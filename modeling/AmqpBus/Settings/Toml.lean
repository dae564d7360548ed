import AmqpBus.Settings.Toml.Scalar
import AmqpBus.Settings.Toml.Text
import AmqpBus.Settings.Toml.Tree

/-!
# Settings in TOML

A TOML file is a sequence of lines: headers that open tables, and keys with values in
the table that is open.  Lists span lines; tables that are values do not.
-/

namespace AmqpBus.Settings

namespace Toml

/-- The characters after blanks and a comment, up to the end of the line.  A comment
holds no control characters. -/
def dropComment? (cs : List Char) : Option (List Char) :=
  match cs.dropWhile isBlank with
  | '#' :: rest =>
    let isEnd (c : Char) : Bool := c == '\n' || c == '\r'
    if (rest.takeWhile fun c => !isEnd c).any isControl then none
    else some (rest.dropWhile fun c => !isEnd c)
  | rest => some rest

/-- The characters after the end of a line, with its blanks and comment. -/
def dropLine? (cs : List Char) : Option (List Char) := do
  match ← dropComment? cs with
  | [] => some []
  | '\n' :: rest => some rest
  | '\r' :: '\n' :: rest => some rest
  | _ => none

/-- The characters after blanks, comments and ends of lines. -/
def dropSpace? : Nat → List Char → Option (List Char)
  | 0, cs => some cs
  | fuel + 1, cs => do
    match ← dropComment? cs with
    | '\n' :: rest => dropSpace? fuel rest
    | '\r' :: '\n' :: rest => dropSpace? fuel rest
    | rest => some rest

/-- A reader of values from what a text starts with. -/
abbrev Reader := List Char → Option (Node × List Char)

/-- The items of a list after its opening bracket, with the reader of an item. -/
def listItems? (item : Reader) : Nat → List Char → Option (List Node × List Char)
  | 0, _ => none
  | fuel + 1, cs => do
    match ← dropSpace? cs.length cs with
    | ']' :: rest => some ([], rest)
    | cs =>
      let (first, rest) ← item cs
      match ← dropSpace? rest.length rest with
      | ']' :: rest => some ([first], rest)
      | ',' :: rest =>
        let (more, rest) ← listItems? item fuel rest
        return (first :: more, rest)
      | _ => none

/-- A key, the sign of equality and a value. -/
def assignment? (value : Reader) (cs : List Char) :
    Option ((List String × Node) × List Char) := do
  let (key, rest) ← key? cs
  match rest with
  | '=' :: rest =>
    let (node, rest) ← value (rest.dropWhile isBlank)
    return ((key, node), rest)
  | _ => none

/-- The entries of a table that is a value, put in after those in front, with the reader of
a value. -/
def valueEntries? (value : Reader) : Nat → Entries → List Char → Option (Entries × List Char)
  | 0, _, _ => none
  | fuel + 1, entries, cs => do
    let ((key, node), rest) ← assignment? value cs
    let entries ← Node.set [] key node entries
    match rest.dropWhile isBlank with
    | '\x7d' :: rest => some (entries, rest)
    | ',' :: rest => valueEntries? value fuel entries rest
    | _ => none

/-- A string or another scalar. -/
def scalarValue? : Reader := fun cs =>
  match string? cs with
  | some (content, rest) => some (.text (String.ofList content), rest)
  | none => do
    let (first, rest) := word cs
    return (.scalar (← scalar? first), rest)

/-- A value in which lists and tables nest at most so many deep. -/
def valueWithin? : Nat → Reader
  | 0, cs => scalarValue? cs
  | depth + 1, cs =>
    match cs with
    | '[' :: rest => do
      let (items, rest) ← listItems? (valueWithin? depth) (rest.length + 1) rest
      return (.list items, rest)
    | '\x7b' :: rest =>
      match rest.dropWhile isBlank with
      | '\x7d' :: rest => some (.table .value [], rest)
      | rest => do
        let (entries, rest) ← valueEntries? (valueWithin? depth) (rest.length + 1) [] rest
        return (.table .value entries, rest)
    | _ => scalarValue? cs

/-- How deep lists and tables may nest in a value. -/
def deepest : Nat := 79

/-- A header: whether it has double brackets, and its path. -/
def header? : List Char → Option ((Bool × List String) × List Char)
  | '[' :: '[' :: cs => do
    match ← key? cs with
    | (path, ']' :: ']' :: rest) => some ((true, path), rest)
    | _ => none
  | '[' :: cs => do
    match ← key? cs with
    | (path, ']' :: rest) => some ((false, path), rest)
    | _ => none
  | _ => none

/-- The tables after the lines of a text, where `path` leads to the table that is open. -/
def lines? : Nat → List String → Entries → List Char → Option Entries
  | 0, _, _, _ => none
  | fuel + 1, path, root, cs => do
    match ← dropSpace? cs.length cs with
    | [] => some root
    | '[' :: rest =>
      let ((isItem, path), rest) ← header? ('[' :: rest)
      let root ← if isItem then Node.openItem path root else Node.openTable path root
      lines? fuel path root (← dropLine? rest)
    | cs =>
      let ((key, node), rest) ← assignment? (valueWithin? deepest) cs
      let root ← Node.set path key node root
      lines? fuel path root (← dropLine? rest)

end Toml

/-- The settings in a TOML text, which may start with a byte order mark. -/
def Setting.readToml? (text : String) : Option Setting := do
  let cs := match text.toList with
    | '\uFEFF' :: cs => cs
    | cs => cs
  Toml.Node.tableSetting? (← Toml.lines? (cs.length + 2) [] [] cs)

end AmqpBus.Settings
