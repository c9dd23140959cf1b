import FluentStyle.SyntaxError
import FluentStyle.Text.Letter
import FluentStyle.Text.Position
import FluentStyle.Text.Split
import FluentStyle.Text.Width

/-!
# Annotated snippets

A source text is shown line by line with line numbers, and under the line that holds a marked
range of bytes stand carets and a label:

```text
error: Syntax error. The fragment was left unchanged.
  |
1 | Select::make('a'))
  |                  ^ unbalanced `)`
  |
```

Lines are shown as they are, blanks at the end included, but through a window: gutter and line take
at most 140 columns, so that a long line does not hide what is marked.
-/

namespace FluentStyle.Snippet

open FluentStyle.Text

/-!
# Lines of a source

A line ends with a line feed, in front of which there may be a carriage return.  A line feed at the
end of the text starts no further line.  A range lies on a line even if it starts at its end.  Lines
are shown with spaces for tabs, and without the characters that join others or change the direction
of the text.
-/

/-- A line of a source text: its characters without the line end, the byte at which it starts, and
the number of bytes of the line end. -/
structure Line where
  text : List Char
  start : Nat
  ending : Nat
deriving DecidableEq, Repr

namespace Line

def stop (line : Line) : Nat :=
  line.start + byteLength line.text

def ofTerminated (start : Nat) (text : List Char) : Line :=
  match text.reverse with
  | '\r' :: rest => ⟨rest.reverse, start, 2⟩
  | _ => ⟨text, start, 1⟩

def ofPieces (start : Nat) : List (List Char) → List Line
  | [] => []
  | [last] => if last.isEmpty then [] else [⟨last, start, 0⟩]
  | piece :: rest => ofTerminated start piece :: ofPieces (start + byteLength piece + 1) rest

/-- The lines of a source text.  A line feed at the end of the text starts no further line. -/
def ofSource (source : List Char) : List Line :=
  ofPieces 0 (splitOn '\n' source)

def holds (first last : Nat) (line : Line) : Bool :=
  line.start ≤ first && first ≤ line.stop + line.ending && last ≤ line.stop + max line.ending 1

/-- The columns marked by a range of the line; at least one column is marked.  Control characters
before the range do not count, tabs among them. -/
def columns (first last : Nat) (line : Line) : Nat × Nat :=
  let left := width (before (first - line.start) line.text)
  let right := width (before (last - line.start) line.text)
  (left, if left = right then right + 1 else right)

/-- The characters of the line as they are shown: tabs as spaces, without the characters that join
others or change the direction of the text. -/
def shown (line : Line) : List Char :=
  line.text.flatMap fun c =>
    if c = '\t' then [' ', ' ', ' ', ' ']
    else if c.toNat ∈ [0x200D, 0x202A, 0x202B, 0x202C, 0x202D, 0x202E,
      0x2066, 0x2067, 0x2068, 0x2069] then []
    else [c]

def indentation (line : Line) : Nat :=
  (line.text.takeWhile isBlank).foldr (fun c rest => (if c = '\t' then 4 else 1) + rest) 0

end Line

/-!
# Choosing a window

The columns of a whole snippet include its gutter, which is taken to be as wide as the number that
would follow that of the last line, with the bar and the blanks around it.  There is room for dots
on either side.
-/

structure Marked where
  left : Nat
  right : Nat
  labelLength : Nat

/-- The part of each line that is shown, as columns.  At most `room` columns stand beside each
other. -/
structure Window where
  left : Nat
  right : Nat
  room : Nat
  /-- A right end that leaves room for dots is this far beyond what has to be shown. -/
  slack : Nat

namespace Window

def totalColumns : Nat := 140

def padding : Nat := 6

/-- The columns beside the gutter.  The gutter is taken to be as wide as the number that would
follow the last line's, with the bar and the blanks around it. -/
def roomFor (lineCount : Nat) : Nat :=
  totalColumns - (3 + (lineCount + 1).repr.length)

/-- Chooses the window for lines of at most `longest` bytes that all start with `indentation`
blanks.  Lines that have room are shown whole but for a long common indentation; otherwise the
window holds what is marked and its label, or as much of it as fits. -/
def choose (room indentation longest : Nat) (marked : Option Marked) : Window :=
  let indented := indentation - padding
  let spanLeft := (marked.map (·.left)).getD 0 - padding
  let spanRight := (marked.map (·.right)).getD 0 + padding
  let labelRight := (marked.map fun m => m.right + m.labelLength).getD 0 + padding
  let left := if indented > 20 then indented - 16 else 0
  let right := max longest left
  let (left, right) :=
    if right - left ≤ room then (left, right)
    else if indented ≤ labelRight ∧ labelRight - indented ≤ room then (indented, indented + room)
    else if labelRight - spanLeft ≤ room then
      let left := spanLeft - (room - (labelRight - spanLeft)) / 2
      (left, left + room)
    else if spanRight - spanLeft ≤ room then
      let left := spanLeft - (room - (spanRight - spanLeft)) / 5 * 2
      (left, left + room)
    else (spanLeft, spanRight)
  ⟨left, right, room, if right = spanRight ∨ right = labelRight then padding else 0⟩

/-!
# Looking through a window

A control character has a column of its own.  Each line is shown from the first character that
starts in the window to the last that fits.
-/

def shownWidth (c : Char) : Nat :=
  if isControl c then 1 else charWidth c

def columns (text : List Char) : Nat :=
  text.foldr (fun c rest => shownWidth c + rest) 0

def fitting (room : Nat) : List Char → List Char
  | [] => []
  | c :: rest =>
      if room < shownWidth c then [] else c :: fitting (room - shownWidth c) rest

def skipped (window : Window) (text : List Char) : Nat :=
  min window.left (byteLength text)

def view (window : Window) (text : List Char) : List Char :=
  let length := byteLength text
  let right := if length - window.left ≤ window.room then length else min length window.right
  fitting (right - window.skipped text) (text.drop (window.skipped text))

def cutsLeft (window : Window) : Bool :=
  window.left > 0

def cutsRight (window : Window) (text : List Char) : Bool :=
  let length := byteLength text
  window.right - window.slack < length && window.left + window.room < length

def hidden (window : Window) (text : List Char) : Nat :=
  columns (text.take (window.skipped text))

end Window

/-!
# Rows

A text is written over a row from some place on; a row that ends before that place is filled up with
blanks, and an empty text changes nothing.  Line numbers are right-aligned.  Dots stand where
characters are out of sight.
-/

/-- Writes a text over a row, from the given place on.  A row that ends before that place is filled
up with blanks; an empty text changes nothing. -/
def overlay (place : Nat) (text row : List Char) : List Char :=
  if text.isEmpty then row
  else row.take place ++ List.replicate (place - row.length) ' ' ++ text ++
    row.drop (place + text.length)

def numberField (fieldWidth number : Nat) : List Char :=
  let digits := number.repr.toList
  List.replicate (fieldWidth - digits.length) ' ' ++ digits

def barRow (gutter : Nat) : List Char :=
  List.replicate (gutter + 1) ' ' ++ ['|']

def codePlace (gutter : Nat) : Nat :=
  gutter + 3

def dots : List Char :=
  ['.', '.', '.']

/-- The row of a line: its number, the bar, and what the window shows of it, with dots over the ends
that were cut. -/
def lineRow (gutter number : Nat) (window : Window) (text : List Char) : List Char :=
  let seen := window.view text
  let row := overlay (codePlace gutter) seen (numberField gutter number ++ [' ', '|'])
  let row := if window.cutsLeft then overlay (codePlace gutter) dots row else row
  if window.cutsRight text then
    overlay (codePlace gutter + Window.columns seen - dots.length) dots row
  else row

/-- The row under a line: the label one blank behind the marked columns, and carets under these.
Marked columns before the window have their carets pressed against the left margin. -/
def markRow (gutter : Nat) (columns : Nat × Nat) (hidden : Nat) (label : List Char) :
    List Char :=
  let first := codePlace gutter + columns.1 - hidden
  let last := codePlace gutter + columns.2 - hidden
  let labelled := overlay (codePlace gutter + columns.2 + 1 - hidden) label (barRow gutter)
  overlay first (List.replicate (max 1 (last - first)) '^') labelled

def title : List Char :=
  "error: Syntax error. The fragment was left unchanged.".toList

/-!
# Snippets
-/

/-- The source text with the bytes from `first` up to `last` marked and labelled. -/
def render (source : String) (first last : Nat) (label : String) : String :=
  let lines := Line.ofSource source.toList
  let gutter := if lines.isEmpty then 0 else lines.length.repr.length
  let place := lines.findIdx (Line.holds first last)
  let marked := lines[place]?.map fun line =>
    let (left, right) := line.columns first last
    { left, right, labelLength := label.utf8ByteSize + 1 : Marked }
  let indentation := ((lines.map Line.indentation).min?).getD 0
  let longest := ((lines.map fun line => byteLength line.text).max?).getD 0
  let window := Window.choose (Window.roomFor lines.length) indentation longest marked
  let rows := lines.mapIdx fun index line =>
    let row := lineRow gutter (index + 1) window line.shown
    if index = place then
      [row, markRow gutter (line.columns first last) (window.hidden line.shown) label.toList]
    else [row]
  let all := title :: barRow gutter :: rows.flatten ++ [barRow gutter]
  join "\n" (all.map String.ofList)

end Snippet

namespace SyntaxError

def lineColumn (error : SyntaxError) (source : String) : Nat × Nat :=
  Text.lineColumn source.toList error.position

def render (error : SyntaxError) (source : String) : String :=
  let start := min error.position source.utf8ByteSize
  let size := match Text.after start source.toList with
    | [] => 0
    | c :: _ => c.utf8Size
  Snippet.render source start (start + size) error.reason.message

end SyntaxError

end FluentStyle
