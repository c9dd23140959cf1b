import FluentStyle.Data.Basic
import FluentStyle.Yaml.Node

/-!
# Writing YAML documents

Data is written in block style with two spaces for a level; a sequence in a mapping starts in the
column of its key.  A text is written plainly where that reads back as the same text, else in single
quotes; a text of several lines is written line by line; and what neither can hold is written in
double quotes with escapes.
-/

namespace FluentStyle.Yaml

/-!
# Texts

A text is not plain if it starts like a sign of a collection or a tag, if a colon before a gap or a
number sign after one stands inside, or if it would be read as something other than a text.
-/

inductive TextStyle where
  | plain
  | single
  | double
  | literal
deriving DecidableEq, Repr

namespace TextStyle

def isBreak (c : Char) : Bool :=
  ['\n', '\r', '\x85', '\u2028', '\u2029'].contains c

def isPrintable (c : Char) : Bool :=
  let n := c.toNat
  n = 0x0A || (0x20 ≤ n && n ≤ 0x7E) || (0xA0 ≤ n && n ≤ 0xFFFD && n ≠ 0xFEFF) || 0x10000 ≤ n

def isGap : Option Char → Bool
  | none => true
  | some c => c = ' ' || c = '\t' || isBreak c

def openers : List Char :=
  ['#', ',', '[', ']', '\x7b', '\x7d', '&', '*', '!', '|', '>', '\'', '"', '%', '@', '\x60']

def startsLikeSign : List Char → Bool
  | [] => false
  | '-' :: '-' :: '-' :: _ => true
  | '.' :: '.' :: '.' :: _ => true
  | c :: rest => openers.contains c || (['?', ':', '-'].contains c && isGap rest.head?)

/-- Whether a colon before a gap or a number sign after one stands inside the text. -/
def hasSign : List Char → Bool
  | c :: d :: rest =>
      (d = ':' && isGap rest.head?) || (isGap (some c) && d = '#') || hasSign (d :: rest)
  | _ => false

def hasPair (first second : Char → Bool) : List Char → Bool
  | c :: d :: rest => (first c && second d) || hasPair first second (d :: rest)
  | _ => false

def allowsPlain (text : List Char) : Bool :=
  !startsLikeSign text && !hasSign text && text.all (fun c => isPrintable c && !isBreak c) &&
    !(text.head?.any (· = ' ') || text.getLast?.any (· = ' '))

def allowsSingle (text : List Char) : Bool :=
  text.all isPrintable && !hasPair (· = ' ') isBreak text && !hasPair isBreak (· = ' ') text

def allowsLiteral (text : List Char) : Bool :=
  text.all isPrintable && !hasPair (· = ' ') isBreak text && !text.getLast?.any (· = ' ')

/-- Whether the text would be read as something other than a text if it had no quotes. -/
def isAmbiguous (text : String) : Bool :=
  match Resolved.ofPlain text with
  | .text _ => Scalar.hasLeadingZero text.toList
  | _ => true

def ofText (text : String) : TextStyle :=
  let chars := text.toList
  if chars.contains '\n' then
    if allowsLiteral chars then .literal else .double
  else if !isAmbiguous text && allowsPlain chars then .plain
  else if allowsSingle chars then .single
  else .double

end TextStyle

def indentLines (indentation : Nat) (broken : Bool) : List Char → List Char
  | [] => []
  | c :: rest =>
      if TextStyle.isBreak c then c :: indentLines indentation true rest
      else
        (if broken then List.replicate indentation ' ' else []) ++
          c :: indentLines indentation false rest

def hexText (width n : Nat) : List Char :=
  let digits := (Nat.toDigits 16 n).map Char.toUpper
  List.replicate (width - digits.length) '0' ++ digits

def escape (c : Char) : List Char :=
  match c with
  | '\x00' => ['\\', '0']
  | '\x07' => ['\\', 'a']
  | '\x08' => ['\\', 'b']
  | '\t' => ['\\', 't']
  | '\n' => ['\\', 'n']
  | '\x0b' => ['\\', 'v']
  | '\x0c' => ['\\', 'f']
  | '\r' => ['\\', 'r']
  | '\x1b' => ['\\', 'e']
  | '"' => ['\\', '"']
  | '\\' => ['\\', '\\']
  | '\x85' => ['\\', 'N']
  | '\u2028' => ['\\', 'L']
  | '\u2029' => ['\\', 'P']
  | c =>
      if TextStyle.isPrintable c then [c]
      else if c.toNat ≤ 0xFF then '\\' :: 'x' :: hexText 2 c.toNat
      else if c.toNat ≤ 0xFFFF then '\\' :: 'u' :: hexText 4 c.toNat
      else '\\' :: 'U' :: hexText 8 c.toNat

/-- The signs after the bar of a text that is written line by line: the width of the indentation,
if the first line does not show it, and what happens to the breaks at the end. -/
def literalSigns (text : List Char) : List Char :=
  (if text.head?.any fun c => c = ' ' || TextStyle.isBreak c then ['2'] else []) ++
    match text.reverse with
    | [] => ['-']
    | [c] => if TextStyle.isBreak c then ['+'] else ['-']
    | c :: d :: _ =>
        if !TextStyle.isBreak c then ['-'] else if TextStyle.isBreak d then ['+'] else []

def textLines (indentation : Nat) (text : String) : String :=
  let chars := text.toList
  match TextStyle.ofText text with
  | .plain => text ++ "\n"
  | .single =>
      "'" ++ String.ofList (indentLines indentation false
        (chars.flatMap fun c => if c = '\'' then ['\'', '\''] else [c])) ++ "'\n"
  | .double => "\"" ++ String.ofList (chars.flatMap escape) ++ "\"\n"
  | .literal =>
      "|" ++ String.ofList (literalSigns chars) ++ "\n" ++
        String.ofList (indentLines indentation true chars) ++
        (if chars.getLast?.any TextStyle.isBreak then "" else "\n")

/-!
# Collections

What follows a colon or a hyphen depends on the indentation of its key or item.  The first item or
entry may stand on a line that has begun.
-/

def blanks (indentation : Nat) : String :=
  String.ofList (List.replicate indentation ' ')

mutual

def afterKey (indentation : Nat) : Data → String
  | .null => " null\n"
  | .bool value => if value then " true\n" else " false\n"
  | .int value => " " ++ value.repr ++ "\n"
  | .text value => " " ++ textLines (indentation + 2) value
  | .sequence [] => " []\n"
  | .sequence items => "\n" ++ itemLines indentation false items
  | .mapping [] => " \x7b\x7d\n"
  | .mapping entries => "\n" ++ entryLines (indentation + 2) false entries

def afterHyphen (indentation : Nat) : Data → String
  | .null => " null\n"
  | .bool value => if value then " true\n" else " false\n"
  | .int value => " " ++ value.repr ++ "\n"
  | .text value => " " ++ textLines (indentation + 2) value
  | .sequence [] => " []\n"
  | .sequence items => " " ++ itemLines (indentation + 2) true items
  | .mapping [] => " \x7b\x7d\n"
  | .mapping entries => " " ++ entryLines (indentation + 2) true entries

def itemLines (indentation : Nat) (begun : Bool) : List Data → String
  | [] => ""
  | item :: rest =>
      (if begun then "" else blanks indentation) ++ "-" ++ afterHyphen indentation item ++
        itemLines indentation false rest

def entryLines (indentation : Nat) (begun : Bool) : List (String × Data) → String
  | [] => ""
  | (key, value) :: rest =>
      (if begun then "" else blanks indentation) ++ key ++ ":" ++ afterKey indentation value ++
        entryLines indentation false rest

end

/-- The document that holds the data; a collection is written without a line in front of it. -/
def render : Data → String
  | .mapping (entry :: entries) => entryLines 0 false (entry :: entries)
  | .sequence (item :: items) => itemLines 0 false (item :: items)
  | value => String.ofList ((afterHyphen 0 value).toList.drop 1)

end FluentStyle.Yaml
