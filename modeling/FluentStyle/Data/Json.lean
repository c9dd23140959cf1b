import FluentStyle.Data.Basic

/-!
# Writing JSON

Data is written with one item or entry on a line and two spaces for a level.
-/

namespace FluentStyle.Json

def escape (c : Char) : List Char :=
  match c with
  | '"' => ['\\', '"']
  | '\\' => ['\\', '\\']
  | '\x08' => ['\\', 'b']
  | '\t' => ['\\', 't']
  | '\n' => ['\\', 'n']
  | '\x0c' => ['\\', 'f']
  | '\r' => ['\\', 'r']
  | c =>
      if c.toNat < 0x20 then
        '\\' :: 'u' :: '0' :: '0' ::
          ((if c.toNat < 0x10 then ['0'] else []) ++ Nat.toDigits 16 c.toNat)
      else [c]

def text (value : String) : String :=
  "\"" ++ String.ofList (value.toList.flatMap escape) ++ "\""

def newLine (indentation : Nat) : String :=
  "\n" ++ String.ofList (List.replicate indentation ' ')

/-!
# Sequences and mappings

What follows on the first line of a value starts on a line with the given indentation; all items and
entries but the first have a comma in front.
-/

mutual

def write (indentation : Nat) : Data → String
  | .null => "null"
  | .bool value => if value then "true" else "false"
  | .int value => value.repr
  | .text value => text value
  | .sequence [] => "[]"
  | .sequence items =>
      "[" ++ writeItems (indentation + 2) true items ++ newLine indentation ++ "]"
  | .mapping [] => "\x7b\x7d"
  | .mapping entries =>
      "\x7b" ++ writeEntries (indentation + 2) true entries ++ newLine indentation ++ "\x7d"

def writeItems (indentation : Nat) (first : Bool) : List Data → String
  | [] => ""
  | item :: rest =>
      (if first then "" else ",") ++ newLine indentation ++ write indentation item ++
        writeItems indentation false rest

def writeEntries (indentation : Nat) (first : Bool) : List (String × Data) → String
  | [] => ""
  | (name, value) :: rest =>
      (if first then "" else ",") ++ newLine indentation ++ text name ++ ": " ++
        write indentation value ++ writeEntries indentation false rest

end

def render (data : Data) : String :=
  write 0 data

end FluentStyle.Json
