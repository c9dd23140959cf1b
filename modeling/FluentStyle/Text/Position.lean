/-!
# Positions in a text

A position is a number of bytes of the UTF-8 encoding.  `lineColumn` turns it into a line and a
column, both counted from 1, the column in characters.
-/

namespace FluentStyle.Text

def byteLength : List Char → Nat
  | [] => 0
  | c :: rest => c.utf8Size + byteLength rest

@[simp] theorem byteLength_nil : byteLength [] = 0 := rfl

@[simp] theorem byteLength_cons (c : Char) (text : List Char) :
    byteLength (c :: text) = c.utf8Size + byteLength text := rfl

@[simp] theorem byteLength_append (first second : List Char) :
    byteLength (first ++ second) = byteLength first + byteLength second := by
  induction first with
  | nil => simp
  | cons c rest ih => simp [ih, Nat.add_assoc]

theorem utf8ByteSize_ofList (text : List Char) :
    (String.ofList text).utf8ByteSize = byteLength text := by
  induction text with
  | nil => rfl
  | cons c rest ih =>
      rw [String.ofList_cons, String.utf8ByteSize_append, String.utf8ByteSize_singleton, ih,
        byteLength_cons]

theorem byteLength_toList (text : String) : byteLength text.toList = text.utf8ByteSize := by
  rw [← utf8ByteSize_ofList, String.ofList_toList]

/-!
# Cutting a text

What starts at a position or later is cut off from what starts before it, and nothing is lost.
-/

def before (position : Nat) : List Char → List Char
  | [] => []
  | c :: rest => if position = 0 then [] else c :: before (position - c.utf8Size) rest

def after (position : Nat) : List Char → List Char
  | [] => []
  | c :: rest => if position = 0 then c :: rest else after (position - c.utf8Size) rest

theorem before_append_after (position : Nat) (text : List Char) :
    before position text ++ after position text = text := by
  induction text generalizing position with
  | nil => rfl
  | cons c rest ih =>
      by_cases h : position = 0
      · simp [before, after, h]
      · simp [before, after, h, ih]

/-!
# Lines and columns
-/

/-- The line and the column that follow the given characters. -/
def lineColumnAfter (text : List Char) : Nat × Nat :=
  (text.count '\n' + 1, (text.reverse.takeWhile (· ≠ '\n')).length + 1)

def lineColumn (text : List Char) (position : Nat) : Nat × Nat :=
  lineColumnAfter (before position text)

end FluentStyle.Text
