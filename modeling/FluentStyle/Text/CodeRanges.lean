import FluentStyle.Text.Split

/-!
# Sets of characters given by ranges

A property of characters is tabulated as a list of code point ranges.  The tables are written as
text: hexadecimal bounds joined by a hyphen, or a single number, with blanks between the entries.
-/

namespace FluentStyle.Text

def hexDigit? (c : Char) : Option Nat :=
  if '0' ≤ c ∧ c ≤ '9' then some (c.toNat - '0'.toNat)
  else if 'a' ≤ c ∧ c ≤ 'f' then some (c.toNat - 'a'.toNat + 10)
  else if 'A' ≤ c ∧ c ≤ 'F' then some (c.toNat - 'A'.toNat + 10)
  else none

def hexValue (digits : List Char) : Nat :=
  digits.foldl (fun value c => 16 * value + (hexDigit? c).getD 0) 0

/-- A set of characters as ranges of code points, both bounds included. -/
structure CodeRanges where
  ranges : List (Nat × Nat)
deriving Repr

namespace CodeRanges

/-- The range that an entry such as `41-5A` or `AA` stands for. -/
def ofEntry (entry : List Char) : Nat × Nat :=
  match splitOn '-' entry with
  | [first, last] => (hexValue first, hexValue last)
  | _ => (hexValue entry, hexValue entry)

def ofLines (lines : List String) : CodeRanges where
  ranges := lines.flatMap fun line => (splitOn ' ' line.toList).map ofEntry

def contains (set : CodeRanges) (c : Char) : Bool :=
  set.ranges.any fun (first, last) => first ≤ c.toNat && c.toNat ≤ last

end CodeRanges

end FluentStyle.Text
