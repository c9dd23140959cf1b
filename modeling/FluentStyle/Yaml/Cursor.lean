import FluentStyle.Text.CodeRanges

/-!
# Scalars of YAML documents

A place in a document, and the readers of plain, quoted and block scalars.  Within a scalar a line
break between words counts as a space, and more breaks count as all but the first.
-/

namespace FluentStyle.Yaml

/-!
# Places
-/

/-- A place in a document: what follows, how many characters come before it, and the line and the
column, both counted from 0. -/
structure Cursor where
  rest : List Char
  index : Nat
  line : Nat
  column : Nat

def isBreak (c : Char) : Bool :=
  [0x0A, 0x0D, 0x85, 0x2028, 0x2029].contains c.toNat

def isGap (c : Char) : Bool :=
  c = ' ' || c = '\t'

def startsBlank : List Char → Bool
  | [] => true
  | c :: _ => isGap c || isBreak c

def startsBreak : List Char → Bool
  | [] => true
  | c :: _ => isBreak c

namespace Cursor

def advance (cursor : Cursor) (count : Nat) : Cursor :=
  ⟨cursor.rest.drop count, cursor.index + count, cursor.line, cursor.column + count⟩

def takeWhile (cursor : Cursor) (test : Char → Bool) : List Char × Cursor :=
  let taken := cursor.rest.takeWhile test
  (taken, cursor.advance taken.length)

/-- Reads a line break, which stands for a line feed unless it is one of the separators of lines
and paragraphs. -/
def lineBreak (cursor : Cursor) : List Char × Cursor :=
  match cursor.rest with
  | '\r' :: '\n' :: rest => (['\n'], ⟨rest, cursor.index + 2, cursor.line + 1, 0⟩)
  | c :: rest =>
      if isBreak c then
        let meaning := if c.toNat = 0x2028 || c.toNat = 0x2029 then c else '\n'
        ([meaning], ⟨rest, cursor.index + 1, cursor.line + 1, 0⟩)
      else ([], cursor)
  | [] => ([], cursor)

def atDocumentSign (cursor : Cursor) : Bool :=
  cursor.column = 0 &&
    match cursor.rest with
    | '-' :: '-' :: '-' :: rest => startsBlank rest
    | '.' :: '.' :: '.' :: rest => startsBlank rest
    | _ => false

end Cursor

/-!
# Gaps between words
-/

structure Gap where
  /-- Blanks before the first line break. -/
  spaces : List Char := []
  /-- Whether there was a line break, or one was escaped. -/
  broken : Bool := false
  firstBreak : List Char := []
  moreBreaks : List Char := []

namespace Gap

def text (gap : Gap) : List Char :=
  if !gap.broken then gap.spaces
  else if gap.firstBreak.head? = some '\n' then
    if gap.moreBreaks = [] then [' '] else gap.moreBreaks
  else gap.firstBreak ++ gap.moreBreaks

/-- Reads blanks and line breaks.  With an indentation given, no tab may stand before it. -/
def read? (indentation : Option Nat) (gap : Gap) : Nat → Cursor → Option (Gap × Cursor)
  | 0, cursor => some (gap, cursor)
  | fuel + 1, cursor =>
      match cursor.rest with
      | [] => some (gap, cursor)
      | c :: _ =>
          if isGap c then
            if gap.broken && c = '\t' && (indentation.any fun n => cursor.column < n) then none
            else if gap.broken then gap.read? indentation fuel (cursor.advance 1)
            else
              read? indentation { gap with spaces := gap.spaces ++ [c] } fuel (cursor.advance 1)
          else if isBreak c then
            let (text, next) := cursor.lineBreak
            if gap.broken then
              read? indentation { gap with moreBreaks := gap.moreBreaks ++ text } fuel next
            else read? indentation { gap with broken := true, firstBreak := text } fuel next
          else some (gap, cursor)

end Gap

namespace Scalar

/-!
# Plain scalars

The reader also tells whether the scalar ended after a line break.
-/

/-- The characters of a word of a plain scalar; within brackets a colon may not stand before a
bracket or a comma. -/
def plainWord? (inFlow : Bool) : List Char → Option (List Char)
  | [] => some []
  | c :: rest =>
      if isGap c || isBreak c then some []
      else if c = ':' && inFlow &&
          (rest.head?.any fun next => ",?[]\x7b\x7d".toList.contains next) then none
      else if c = ':' && startsBlank rest then some []
      else if inFlow && ",[]\x7b\x7d".toList.contains c then some []
      else (plainWord? inFlow rest).map (c :: ·)

def readPlain? (inFlow : Bool) (indentation : Nat) (text : List Char) (gap : Gap) :
    Nat → Cursor → Option (List Char × Bool × Cursor)
  | 0, cursor => some (text, gap.broken, cursor)
  | fuel + 1, cursor =>
      if cursor.atDocumentSign || cursor.rest.head? = some '#' then
        some (text, gap.broken, cursor)
      else
        match plainWord? inFlow cursor.rest with
        | none => none
        | some [] => some (text, gap.broken, cursor)
        | some word =>
            let text := text ++ gap.text ++ word
            let cursor := cursor.advance word.length
            match Gap.read? (some indentation) {} (cursor.rest.length + 1) cursor with
            | none => none
            | some (gap, next) =>
                if next.index = cursor.index then some (text, false, cursor)
                else if !inFlow && next.column < indentation then some (text, gap.broken, next)
                else readPlain? inFlow indentation text gap fuel next

/-!
# Quoted scalars

Between single quotes a quote is written twice.
-/

def escape? (c : Char) : Option Char :=
  match c with
  | '0' => some '\x00'
  | 'a' => some '\x07'
  | 'b' => some '\x08'
  | 't' => some '\t'
  | '\t' => some '\t'
  | 'n' => some '\n'
  | 'v' => some '\x0b'
  | 'f' => some '\x0c'
  | 'r' => some '\r'
  | 'e' => some '\x1b'
  | ' ' => some ' '
  | '"' => some '"'
  | '/' => some '/'
  | '\\' => some '\\'
  | 'N' => some '\u0085'
  | '_' => some '\u00a0'
  | 'L' => some '\u2028'
  | 'P' => some '\u2029'
  | _ => none

def escapeSize? (c : Char) : Option Nat :=
  match c with
  | 'x' => some 2
  | 'u' => some 4
  | 'U' => some 8
  | _ => none

/-- Reads the words of a line between double quotes; `true` says that the line break is escaped. -/
def doubleQuotedLine? (text : List Char) : Nat → Cursor → Option (List Char × Bool × Cursor)
  | 0, _ => none
  | fuel + 1, cursor =>
      match cursor.rest with
      | '\\' :: c :: rest =>
          if isBreak c then
            some (text, true, (cursor.advance 1).lineBreak.2)
          else
            match escape? c, escapeSize? c with
            | some meaning, _ => doubleQuotedLine? (text ++ [meaning]) fuel (cursor.advance 2)
            | none, some size =>
                let digits := rest.take size
                let code := Text.hexValue digits
                if digits.length = size && digits.all (fun c => (Text.hexDigit? c).isSome) &&
                    code.isValidChar then
                  doubleQuotedLine? (text ++ [Char.ofNat code]) fuel (cursor.advance (2 + size))
                else none
            | none, none => none
      | c :: _ =>
          if c = '"' || isGap c || isBreak c then some (text, false, cursor)
          else doubleQuotedLine? (text ++ [c]) fuel (cursor.advance 1)
      | [] => some (text, false, cursor)

def singleQuotedLine (text : List Char) : Nat → Cursor → List Char × Cursor
  | 0, cursor => (text, cursor)
  | fuel + 1, cursor =>
      match cursor.rest with
      | '\'' :: '\'' :: _ => singleQuotedLine (text ++ ['\'']) fuel (cursor.advance 2)
      | c :: _ =>
          if c = '\'' || isGap c || isBreak c then (text, cursor)
          else singleQuotedLine (text ++ [c]) fuel (cursor.advance 1)
      | [] => (text, cursor)

def readQuoted? (quote : Char) (text : List Char) : Nat → Cursor → Option (List Char × Cursor)
  | 0, _ => none
  | fuel + 1, cursor =>
      if cursor.atDocumentSign || cursor.rest = [] then none
      else
        let line := if quote = '"' then doubleQuotedLine? text (cursor.rest.length + 1) cursor
          else
            let (text, cursor) := singleQuotedLine text (cursor.rest.length + 1) cursor
            some (text, false, cursor)
        match line with
        | none => none
        | some (text, escaped, cursor) =>
            if cursor.rest.head? = some quote && !escaped then some (text, cursor.advance 1)
            else
              let start : Gap := { broken := escaped }
              match start.read? none (cursor.rest.length + 1) cursor with
              | none => none
              | some (gap, next) => readQuoted? quote (text ++ gap.text) fuel next

/-!
# Block scalars

After `|` or `>` it may say how the line breaks at the end are chomped, and how far the lines are
indented.
-/

inductive Chomping where
  | strip
  | clip
  | keep
deriving DecidableEq

def blockHeader? : List Char → Option (Chomping × Option Nat × Nat)
  | chars =>
      let chomping? : Char → Option Chomping := fun c =>
        if c = '+' then some .keep else if c = '-' then some .strip else none
      let indent? : Char → Option Nat := fun c =>
        if '0' ≤ c ∧ c ≤ '9' then some (c.toNat - '0'.toNat) else none
      let header := match chars with
        | a :: b :: _ =>
            match chomping? a, indent? a, chomping? b, indent? b with
            | some k, _, _, some n => (k, some n, 2)
            | some k, _, _, none => (k, none, 1)
            | none, some n, some k, _ => (k, some n, 2)
            | none, some n, none, _ => (.clip, some n, 1)
            | none, none, _, _ => (.clip, none, 0)
        | [a] =>
            match chomping? a, indent? a with
            | some k, _ => (k, none, 1)
            | none, some n => (.clip, some n, 1)
            | none, none => (.clip, none, 0)
        | [] => (.clip, none, 0)
      if header.2.1 = some 0 then none else some header

/-- Reads empty lines and indentation before a line of a block scalar.  Without a known indentation
the deepest one counts, which is given back. -/
def blockBreaks? (indentation : Nat) (deepest : Nat) (breaks : List Char) :
    Nat → Cursor → Option (List Char × Nat × Cursor)
  | 0, cursor => some (breaks, deepest, cursor)
  | fuel + 1, cursor =>
      let spaces := (cursor.rest.takeWhile (· = ' ')).length
      let count := if indentation = 0 then spaces else min spaces (indentation - cursor.column)
      let cursor := cursor.advance count
      let deepest := max deepest cursor.column
      match cursor.rest with
      | c :: _ =>
          if c = '\t' && (indentation = 0 || cursor.column < indentation) then none
          else if isBreak c then
            let (text, next) := cursor.lineBreak
            blockBreaks? indentation deepest (breaks ++ text) fuel next
          else some (breaks, deepest, cursor)
      | [] => some (breaks, deepest, cursor)

def blockLines? (literal : Bool) (indentation : Nat) (text lastBreak breaks : List Char)
    (afterBlank : Bool) :
    Nat → Cursor → Option (List Char × List Char × List Char × Cursor)
  | 0, _ => none
  | fuel + 1, cursor =>
      if cursor.column ≠ indentation || cursor.rest = [] then some (text, lastBreak, breaks, cursor)
      else
        let blank := cursor.rest.head?.any isGap
        let joined :=
          if !literal && lastBreak.head? = some '\n' && !afterBlank && !blank then
            if breaks = [] then [' '] else breaks
          else lastBreak ++ breaks
        let (line, cursor) := cursor.takeWhile fun c => !isBreak c
        let (lastBreak, cursor) := cursor.lineBreak
        match blockBreaks? indentation 0 [] (cursor.rest.length + 1) cursor with
        | none => none
        | some (breaks, _, cursor) =>
            blockLines? literal indentation (text ++ joined ++ line) lastBreak breaks blank fuel
              cursor

/-- Reads a block scalar after its sign; `parent` is the indentation around it, if there is one. -/
def readBlock? (literal : Bool) (parent : Option Nat) (cursor : Cursor) :
    Option (List Char × Cursor) :=
  match blockHeader? cursor.rest with
  | none => none
  | some (chomping, increment, size) =>
      let cursor := ((cursor.advance size).takeWhile isGap).2
      let cursor :=
        if cursor.rest.head? = some '#' then (cursor.takeWhile fun c => !isBreak c).2 else cursor
      if !startsBreak cursor.rest then none
      else
        let cursor := cursor.lineBreak.2
        let fixed := match increment with
          | none => 0
          | some n => parent.getD 0 + n
        match blockBreaks? fixed 0 [] (cursor.rest.length + 1) cursor with
        | none => none
        | some (breaks, deepest, cursor) =>
            let indentation :=
              if fixed ≠ 0 then fixed
              else max deepest (max 1 (match parent with | none => 0 | some n => n + 1))
            match blockLines? literal indentation [] [] breaks false (cursor.rest.length + 1)
                cursor with
            | none => none
            | some (text, lastBreak, breaks, cursor) =>
                match chomping with
                | .strip => some (text, cursor)
                | .clip => some (text ++ lastBreak, cursor)
                | .keep => some (text ++ lastBreak ++ breaks, cursor)

end Scalar

end FluentStyle.Yaml
