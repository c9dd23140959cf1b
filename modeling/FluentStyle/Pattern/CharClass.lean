import FluentStyle.Text.CaseOrbit
import FluentStyle.Text.Letter
import FluentStyle.Text.Property.Binary
import FluentStyle.Text.Property.GeneralCategory
import FluentStyle.Text.Property.Script

/-!
# Classes of characters

The sets of characters that a pattern can name, as expressions, and membership in them.
-/

namespace FluentStyle

/-- A set of characters, as it is put together in a pattern. -/
inductive CharClass where
  | empty
  /-- The characters with code points between two bounds. -/
  | between (first last : Nat)
  | table (ranges : Text.CodeRanges)
  | union (a b : CharClass)
  | inter (a b : CharClass)
  | diff (a b : CharClass)
  | symmDiff (a b : CharClass)
  | compl (a : CharClass)
  /-- The characters that differ in case at most from one of the set. -/
  | caseless (a : CharClass)
  /-- The same for the letters `a` to `z` only. -/
  | caselessAscii (a : CharClass)
deriving Repr

namespace CharClass

def contains : CharClass → Char → Bool
  | .empty, _ => false
  | .between first last, c => first ≤ c.toNat && c.toNat ≤ last
  | .table ranges, c => ranges.contains c
  | .union a b, c => a.contains c || b.contains c
  | .inter a b, c => a.contains c && b.contains c
  | .diff a b, c => a.contains c && !b.contains c
  | .symmDiff a b, c => a.contains c != b.contains c
  | .compl a, c => !a.contains c
  | .caseless a, c => (Text.caseVariants c).any a.contains
  | .caselessAscii a, c => a.contains c || a.contains c.toLower || a.contains c.toUpper

def single (c : Char) : CharClass :=
  .between c.toNat c.toNat

def ofList (chars : List Char) : CharClass :=
  chars.foldr (fun c rest => .union (single c) rest) .empty

def any : CharClass :=
  .between 0 0x10FFFF

def ascii : CharClass :=
  .between 0 0x7F

def unionAll (classes : List CharClass) : CharClass :=
  classes.foldr .union .empty

/-!
# Named classes

Scripts, general categories and other properties of characters go by names.  Digits, blanks and
characters of words are those of every script, or of ASCII only.
-/

def category? (name : String) : Option CharClass :=
  match Text.categoryGroups.find? (·.1.contains name) with
  | some (_, members) =>
      some (unionAll (members.filterMap fun member =>
        (Text.categoryTable.find? (·.1.contains member)).map fun entry =>
          .table (.ofLines entry.2)))
  | none =>
      (Text.categoryTable.find? (·.1.contains name)).map fun entry => .table (.ofLines entry.2)

def script? (name : String) : Option CharClass :=
  (Text.scriptTable.find? (·.1.contains name)).map fun entry => .table (.ofLines entry.2)

def property? (name : String) : Option CharClass :=
  (Text.propertyTable.find? (·.1.contains name)).map fun entry => .table (.ofLines entry.2)

/-- A name without the differences that do not count: case, blanks, hyphens, underscores, and a
leading `is`. -/
def looseName (name : List Char) : String :=
  let plain := (name.filter fun c => !(c = ' ' || c = '-' || c = '_')).map Char.toLower
  match plain with
  | ['i', 's', 'c'] => "isc"
  | 'i' :: 's' :: rest => String.ofList rest
  | _ => String.ofList plain

def named? (name : List Char) : Option CharClass :=
  match looseName name with
  | "any" => some any
  | "ascii" => some ascii
  | "assigned" => (category? "cn").map .compl
  | loose => (property? loose).or ((category? loose).or (script? loose))

/-- The class of the characters for which the named property has the given value. -/
def valued? (name value : List Char) : Option CharClass :=
  match looseName name with
  | "gc" | "generalcategory" =>
      match looseName value with
      | "any" => some any
      | "ascii" => some ascii
      | "assigned" => (category? "cn").map .compl
      | loose => category? loose
  | "sc" | "script" | "scx" | "scriptextensions" => script? (looseName value)
  | _ => none

def digit (unicode : Bool) : CharClass :=
  if unicode then (category? "nd").getD .empty else .between 0x30 0x39

def space (unicode : Bool) : CharClass :=
  if unicode then .union (.between 9 13) (.union (single ' ') (.table Text.wideBlanks))
  else .union (.between 9 13) (single ' ')

def wideWord : CharClass :=
  unionAll [(property? "alphabetic").getD .empty, (category? "m").getD .empty,
    (category? "nd").getD .empty, (category? "pc").getD .empty, .between 0x200C 0x200D]

/-- The characters of words: those of every script, or of ASCII only. -/
def word (unicode : Bool) : CharClass :=
  if unicode then wideWord
  else unionAll [.between 0x30 0x39, .between 0x41 0x5A, single '_', .between 0x61 0x7A]

def posix? : String → Option CharClass
  | "alnum" => some (unionAll [.between 0x30 0x39, .between 0x41 0x5A, .between 0x61 0x7A])
  | "alpha" => some (.union (.between 0x41 0x5A) (.between 0x61 0x7A))
  | "ascii" => some ascii
  | "blank" => some (ofList ['\t', ' '])
  | "cntrl" => some (.union (.between 0 0x1F) (.between 0x7F 0x7F))
  | "digit" => some (.between 0x30 0x39)
  | "graph" => some (.between 0x21 0x7E)
  | "lower" => some (.between 0x61 0x7A)
  | "print" => some (.between 0x20 0x7E)
  | "punct" =>
      some (unionAll [.between 0x21 0x2F, .between 0x3A 0x40, .between 0x5B 0x60,
        .between 0x7B 0x7E])
  | "space" => some (space false)
  | "upper" => some (.between 0x41 0x5A)
  | "word" => some (word false)
  | "xdigit" => some (unionAll [.between 0x30 0x39, .between 0x41 0x46, .between 0x61 0x66])
  | _ => none

end CharClass

end FluentStyle
