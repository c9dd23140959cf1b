import FluentStyle.Pattern.CharClass

/-!
# Quoted text

A text as a message shows it: between double quotes, with an escape for every character that could
not be told from its look.
-/

namespace FluentStyle.Text

/-- The characters that cannot be told from their look: controls, blanks, marks that join the
character before them, and code points without a character. -/
def hiddenChars : CharClass :=
  .unionAll (["cc", "cf", "cn", "co", "zl", "zp", "zs"].filterMap CharClass.category? ++
    ["graphemeextend"].filterMap CharClass.property?)

def escape (c : Char) : List Char :=
  if c = '\x00' then ['\\', '0']
  else if c = '\t' then ['\\', 't']
  else if c = '\r' then ['\\', 'r']
  else if c = '\n' then ['\\', 'n']
  else if c = '"' then ['\\', '"']
  else if c = '\\' then ['\\', '\\']
  else if ' ' ≤ c ∧ c ≤ '~' then [c]
  else if hiddenChars.contains c then
    ['\\', 'u', '\x7b'] ++ Nat.toDigits 16 c.toNat ++ ['\x7d']
  else [c]

def quoted (text : String) : String :=
  String.ofList ('"' :: text.toList.flatMap escape ++ ['"'])

end FluentStyle.Text
