import AmqpBus.Settings.Setting

/-!
# Paths

The name of a setting leads through nested tables and lists: `a.b[2]` is the third item
of the list under `b` in the table under `a`.  Putting a setting at the end of a path
makes whatever the path passes through a table or a list.  `Setting.lay` puts all that a
source sets over what is there: tables are merged, all else is replaced.
-/

namespace AmqpBus.Settings

/-- One step of a path: to an entry of a table or to an item of a list, which is counted
from the end when negative. -/
inductive Step where
  | entry (name : String)
  | item (index : Int)
  deriving DecidableEq

/-- The name that a path starts with, and the steps after it. -/
structure Path where
  head : String
  steps : List Step
  deriving DecidableEq

namespace Path

/-- Whether a character may stand in a name on a path. -/
def isNamePart (c : Char) : Bool :=
  c.isAlphanum || c == ' ' || c == '_' || c == '-'

/-- The index between the brackets of a step, with blanks around it. -/
def index? (cs : List Char) : Option Int := do
  let blank (c : Char) : Bool := c == ' ' || c == '\t'
  let inner := ((cs.dropWhile blank).reverse.dropWhile blank).reverse
  let index ← match inner with
    | '-' :: digits => (Text.decimal? digits).map fun n => -(n : Int)
    | digits => (Text.decimal? digits).map fun n => (n : Int)
  if Number.isSigned 64 index then some index else none

/-- The steps that a text stands for, read with at most `fuel` of them. -/
def stepsWithin? : Nat → List Char → Option (List Step)
  | _, [] => some []
  | 0, _ => none
  | fuel + 1, '.' :: cs =>
    let name := cs.takeWhile isNamePart
    if name.isEmpty then none
    else (stepsWithin? fuel (cs.dropWhile isNamePart)).map (.entry (String.ofList name) :: ·)
  | fuel + 1, '[' :: cs => do
    let inner := cs.takeWhile (· != ']')
    match cs.dropWhile (· != ']') with
    | _ :: rest => return .item (← index? inner) :: (← stepsWithin? fuel rest)
    | [] => none
  | _ + 1, _ => none

/-- The path that a text stands for. -/
def ofString? (text : String) : Option Path := do
  let cs := text.toList
  let head := cs.takeWhile isNamePart
  if head.isEmpty then none
  else return ⟨String.ofList head, ← stepsWithin? cs.length (cs.dropWhile isNamePart)⟩

/-- The position that an index means in a list of a length. -/
def position? (length : Nat) (index : Int) : Option Nat :=
  if 0 ≤ index then some index.toNat
  else if index.natAbs ≤ length then some (length - index.natAbs)
  else none

/-- The setting one step away. -/
def stepFrom? (root : Setting) : Step → Option Setting
  | .entry name => root.entries.lookup name
  | .item index => do root.items[← position? root.items.length index]?

/-- The setting at the end of a path. -/
def get? (path : Path) (root : Setting) : Option Setting :=
  (Step.entry path.head :: path.steps).foldlM stepFrom? root

/-- Applies a function to the item that an index means, in a list with as many nulls as
are missing: at its end for an item counted from the start, and in front for one counted
from the end. -/
def modifyItem (f : Setting → Setting) (items : List Setting) (index : Int) : List Setting :=
  if 0 ≤ index then
    let missing := index.toNat + 1 - items.length
    (items ++ List.replicate missing Setting.null).modify index.toNat f
  else
    let missing := index.natAbs - items.length
    (List.replicate missing Setting.null ++ items).modify (items.length - index.natAbs) f

/-- Applies a function to the setting one step away, which is null when there is none. -/
def modifyStep (f : Setting → Setting) (root : Setting) : Step → Setting
  | .entry name =>
    let key := Text.lower name
    .table (insertEntry key (f ((root.entries.lookup key).getD .null)) root.entries)
  | .item index => .list (modifyItem f root.items index)

/-- Puts a setting at the end of a step and of those after it. -/
def putSteps (value : Setting) : Step → List Step → Setting → Setting
  | .entry name, [], root => root.put name value
  | step, [], root => modifyStep (fun _ => value) root step
  | step, next :: rest, root => modifyStep (putSteps value next rest) root step

/-- Puts a setting at the end of a path. -/
def put (path : Path) (value : Setting) (root : Setting) : Setting :=
  putSteps value (.entry path.head) path.steps root

end Path

/-- Puts a setting where a name leads as a path, or under the name itself when it is no
path. -/
def Setting.putAt (root : Setting) (name : String) (value : Setting) : Setting :=
  match Path.ofString? name with
  | some path => path.put value root
  | none => root.put name value

/-- Puts entries into a table, one after the other, each where its name leads. -/
def Setting.putAllAt (root : Setting) (entries : List (String × Setting)) : Setting :=
  entries.foldl (fun root entry => root.putAt entry.1 entry.2) root

/-- Lays what a source sets over a table.  The source makes up a table of its own first,
so that an item of a list is an item of its own list. -/
def Setting.lay (root : Setting) (source : List (String × Setting)) : Setting :=
  root.putAllAt (Setting.putAllAt (.table []) source).entries

end AmqpBus.Settings
