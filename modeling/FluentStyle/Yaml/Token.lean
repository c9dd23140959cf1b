import FluentStyle.Text.Letter
import FluentStyle.Yaml.Cursor

/-!
# Tokens of YAML documents

A document is cut into tokens in which indentation has become explicit: a block collection starts
where its first entry stands, and it ends where a line starts further left.  That a scalar is a key
is only seen at the colon after it, so the place of a possible key is remembered and the tokens that
announce a key are put in there afterwards.
-/

namespace FluentStyle.Yaml

/-!
# How far a document is cut
-/

inductive Tok where
  | documentStart
  | documentEnd
  | version
  | handle (name resolved : List Char)
  | blockSequence
  | blockMapping
  | blockEnd
  | flowSequence
  | flowSequenceEnd
  | flowMapping
  | flowMappingEnd
  | entry
  | comma
  | key
  | value
  | alias (name : List Char)
  | anchor (name : List Char)
  | tag (handle rest : List Char)
  | scalar (plain : Bool) (text : String)
deriving DecidableEq, Repr

/-- A place where a key may stand that is not yet known to be one. -/
structure PossibleKey where
  /-- Nothing but a key may stand there. -/
  required : Bool
  /-- The number of tokens before it. -/
  place : Nat
  index : Nat
  line : Nat
  column : Nat

/-- How far a document is cut into tokens. -/
structure Scan where
  cursor : Cursor
  tokens : Array Tok
  /-- The columns of the open block collections, innermost first. -/
  indents : List Nat
  /-- The possible key at each level of brackets, innermost first; the last one is outside of all
  brackets. -/
  keys : List (Option PossibleKey)
  /-- Whether a key may start here. -/
  keyAllowed : Bool

namespace Scan

/-!
# Possible keys

A possible key is given up where it is too far back, unless only a key may stand there.
-/

def inFlow (scan : Scan) : Bool :=
  scan.keys.length > 1

def dropKey? (scan : Scan) : Option Scan :=
  match scan.keys with
  | some key :: rest => if key.required then none else some { scan with keys := none :: rest }
  | _ => some scan

def saveKey? (scan : Scan) : Option Scan :=
  if !scan.keyAllowed then some scan
  else
    match scan.dropKey? with
    | none => none
    | some scan =>
        let required := !scan.inFlow && scan.indents.head? = some scan.cursor.column
        let key : PossibleKey :=
          ⟨required, scan.tokens.size, scan.cursor.index, scan.cursor.line, scan.cursor.column⟩
        some { scan with keys := some key :: scan.keys.tail }

/-- A key has to end on the line on which it starts, within 1024 characters. -/
def isStale (scan : Scan) (key : PossibleKey) : Bool :=
  key.line < scan.cursor.line || key.index + 1024 < scan.cursor.index

def dropStale? (scan : Scan) : Option Scan :=
  if scan.keys.any fun key => key.any fun key => scan.isStale key && key.required then none
  else
    some { scan with
      keys := scan.keys.map fun key => key.filter fun key => !scan.isStale key }

/-!
# Indentation

Collections that start right of a column are closed at it.
-/

/-- Opens a block collection at a column that lies further right than the one around it; its token
is put at the given place, or at the end. -/
def indent (scan : Scan) (column : Nat) (place : Option Nat) (token : Tok) : Scan :=
  if scan.inFlow || (scan.indents.head?.any fun current => column ≤ current) then scan
  else
    let tokens := match place with
      | none => scan.tokens.push token
      | some place => scan.tokens.toList.take place ++ token :: scan.tokens.toList.drop place
          |>.toArray
    { scan with indents := column :: scan.indents, tokens }

/-- Closes the block collections that start right of the column; without a column, all of them. -/
def dedent (scan : Scan) (column : Option Nat) : Scan :=
  if scan.inFlow then scan
  else
    let closed := scan.indents.takeWhile fun current => column.all fun column => column < current
    { scan with
      indents := scan.indents.drop closed.length
      tokens := scan.tokens ++ (closed.map fun _ => Tok.blockEnd).toArray }

def skipBlanks (scan : Scan) : Nat → Scan
  | 0 => scan
  | fuel + 1 =>
      match scan.cursor.rest with
      | [] => scan
      | c :: _ =>
          if c = ' ' || (c = '\t' && (scan.inFlow || !scan.keyAllowed)) then
            skipBlanks { scan with cursor := scan.cursor.advance 1 } fuel
          else if c = '#' then
            skipBlanks { scan with cursor := (scan.cursor.takeWhile fun c => !isBreak c).2 } fuel
          else if isBreak c then
            skipBlanks
              { scan with
                cursor := scan.cursor.lineBreak.2
                keyAllowed := scan.keyAllowed || !scan.inFlow } fuel
          else scan

/-!
# Signs, names and tags

Brackets and commas only stand in a tag within angles.  A directive gives the version of the format,
or a handle for tags.
-/

def sign (scan : Scan) (token : Tok) (keyAllowed : Bool) : Scan :=
  { scan with
    cursor := scan.cursor.advance 1, tokens := scan.tokens.push token, keyAllowed }

def isAnchorChar (c : Char) : Bool :=
  c.isAlphanum || c = '_' || c = '-'

def anchorName? (cursor : Cursor) : Option (List Char × Cursor) :=
  let (name, after) := cursor.takeWhile isAnchorChar
  let ends := startsBlank after.rest ||
    (after.rest.head?.any fun c => "?:,]\x7d%@\x60".toList.contains c)
  if name = [] || !ends then none else some (name, after)

def isTagChar (inAngles : Bool) (c : Char) : Bool :=
  c.isAlphanum || "-_;/?:@&=+$.%!~*'()".toList.contains c || (inAngles && ",[]".toList.contains c)

def tag? (cursor : Cursor) : Option (List Char × List Char × Cursor) :=
  let (handle, rest, after) := match cursor.rest with
    | '!' :: '<' :: _ =>
        let (name, after) := (cursor.advance 2).takeWhile (isTagChar true)
        if after.rest.head? = some '>' then ([], name, after.advance 1) else ([], [], after)
    | _ =>
        let (name, after) := (cursor.advance 1).takeWhile isAnchorChar
        if after.rest.head? = some '!' then
          let (rest, after) := (after.advance 1).takeWhile (isTagChar false)
          ('!' :: name ++ ['!'], rest, after)
        else
          let (rest, after) := (cursor.advance 1).takeWhile (isTagChar false)
          (['!'], rest, after)
  if handle = [] && rest = [] then none
  else if handle.length > 1 && rest = [] then none
  else if startsBlank after.rest || after.rest.head? = some ',' then some (handle, rest, after)
  else none

def directive? (cursor : Cursor) : Option (Tok × Cursor) :=
  let (name, after) := (cursor.advance 1).takeWhile isAnchorChar
  let (blanks, after) := after.takeWhile isGap
  let finish (token : Tok) (cursor : Cursor) : Option (Tok × Cursor) :=
    let cursor := (cursor.takeWhile isGap).2
    let cursor :=
      if cursor.rest.head? = some '#' then (cursor.takeWhile fun c => !isBreak c).2 else cursor
    if startsBreak cursor.rest then some (token, cursor.lineBreak.2) else none
  if blanks = [] then none
  else if name = "YAML".toList then
    let (major, after) := after.takeWhile Text.isDigit
    let (minor, rest) := (after.advance 1).takeWhile Text.isDigit
    if major = ['1'] && after.rest.head? = some '.' && (minor = ['1'] || minor = ['2']) then
      finish .version rest
    else none
  else if name = "TAG".toList then
    let (handle, after) := after.takeWhile fun c => c = '!' || isAnchorChar c
    let (gap, after) := after.takeWhile isGap
    let (tagText, after) := after.takeWhile (isTagChar true)
    if handle.head? = some '!' && handle.getLast? = some '!' && gap ≠ [] && tagText ≠ [] then
      finish (.handle handle tagText) after
    else none
  else none

/-!
# Tokens

A token that stands for a value or a part of one may be a key.
-/

def startsPlain (inFlow : Bool) : List Char → Bool
  | [] => false
  | c :: rest =>
      !(isGap c || isBreak c || "-?:,[]\x7b\x7d#&*!|>'\"%@\x60".toList.contains c) ||
        (c = '-' && !(rest.head?.any isGap)) ||
        (!inFlow && (c = '?' || c = ':') && !startsBlank rest)

def content? (scan : Scan) (read : Cursor → Option (Tok × Bool × Cursor)) : Option Scan :=
  match scan.saveKey? with
  | none => none
  | some scan =>
      match read scan.cursor with
      | none => none
      | some (token, keyAllowed, cursor) =>
          some { scan with cursor, tokens := scan.tokens.push token, keyAllowed }

def valueSign? (scan : Scan) : Option Scan :=
  match scan.keys with
  | some key :: rest =>
      let tokens := scan.tokens.toList.take key.place ++ Tok.key :: scan.tokens.toList.drop key.place
      let scan : Scan := { scan with tokens := tokens.toArray, keys := none :: rest }
      some ((scan.indent key.column (some key.place) .blockMapping).sign .value false)
  | _ =>
      if scan.inFlow then some (scan.sign .value false)
      else if scan.keyAllowed then
        some ((scan.indent scan.cursor.column none .blockMapping).sign .value true)
      else none

def token? (scan : Scan) (c : Char) (rest : List Char) : Option Scan :=
  let length := scan.cursor.rest.length + 1
  if scan.cursor.column = 0 && c = '%' then
    match (scan.dedent none).dropKey? with
    | none => none
    | some scan =>
        (directive? scan.cursor).map fun (token, cursor) =>
          { scan with cursor, tokens := scan.tokens.push token, keyAllowed := false }
  else if scan.cursor.atDocumentSign then
    (scan.dedent none).dropKey?.map fun scan =>
      { scan with
        cursor := scan.cursor.advance 3
        tokens := scan.tokens.push (if c = '-' then .documentStart else .documentEnd)
        keyAllowed := false }
  else if c = '[' || c = '\x7b' then
    scan.saveKey?.map fun scan =>
      { (scan.sign (if c = '[' then .flowSequence else .flowMapping) true) with
        keys := none :: scan.keys }
  else if c = ']' || c = '\x7d' then
    scan.dropKey?.map fun scan =>
      { (scan.sign (if c = ']' then .flowSequenceEnd else .flowMappingEnd) false) with
        keys := if scan.inFlow then scan.keys.tail else scan.keys }
  else if c = ',' then
    scan.dropKey?.map fun scan => scan.sign .comma true
  else if c = '-' && startsBlank rest then
    if scan.inFlow then scan.dropKey?.map fun scan => scan.sign .entry true
    else if scan.keyAllowed then
      (scan.indent scan.cursor.column none .blockSequence).dropKey?.map fun scan =>
        scan.sign .entry true
    else none
  else if c = '?' && (scan.inFlow || startsBlank rest) then
    if scan.inFlow then scan.dropKey?.map fun scan => scan.sign .key false
    else if scan.keyAllowed then
      (scan.indent scan.cursor.column none .blockMapping).dropKey?.map fun scan =>
        scan.sign .key true
    else none
  else if c = ':' && (scan.inFlow || startsBlank rest) then scan.valueSign?
  else if c = '*' || c = '&' then
    scan.content? fun cursor =>
      (anchorName? (cursor.advance 1)).map fun (name, after) =>
        (if c = '*' then .alias name else .anchor name, false, after)
  else if c = '!' then
    scan.content? fun cursor =>
      (tag? cursor).map fun (handle, rest, after) => (.tag handle rest, false, after)
  else if (c = '|' || c = '>') && !scan.inFlow then
    match scan.dropKey? with
    | none => none
    | some scan =>
        (Scalar.readBlock? (c = '|') scan.indents.head? (scan.cursor.advance 1)).map
          fun (text, cursor) =>
            { scan with
              cursor
              tokens := scan.tokens.push (.scalar false (String.ofList text))
              keyAllowed := true }
  else if c = '\'' || c = '"' then
    scan.content? fun cursor =>
      (Scalar.readQuoted? c [] length (cursor.advance 1)).map fun (text, after) =>
        (.scalar false (String.ofList text), false, after)
  else if startsPlain scan.inFlow (c :: rest) then
    let indentation := match scan.indents.head? with
      | none => 0
      | some n => n + 1
    let inFlow := scan.inFlow
    scan.content? fun cursor =>
      (Scalar.readPlain? inFlow indentation [] {} length cursor).map fun (text, broken, after) =>
        (.scalar true (String.ofList text), broken, after)
  else none

def finish? (scan : Scan) : Nat → Option (Array Tok)
  | 0 => none
  | fuel + 1 =>
      match (scan.skipBlanks (scan.cursor.rest.length + 1)).dropStale? with
      | none => none
      | some scan =>
          let scan := scan.dedent (some scan.cursor.column)
          match scan.cursor.rest with
          | [] => (scan.dedent none).dropKey?.map (·.tokens)
          | c :: rest =>
              match scan.token? c rest with
              | none => none
              | some scan => finish? scan fuel

end Scan

/-!
# Cutting a document
-/

def isPrintable (c : Char) : Bool :=
  let n := c.toNat
  n = 9 || n = 10 || n = 13 || (0x20 ≤ n && n ≤ 0x7E) || n = 0x85 || (0xA0 ≤ n && n ≤ 0xD7FF) ||
    (0xE000 ≤ n && n ≤ 0xFFFD && n ≠ 0xFEFF) || 0x10000 ≤ n

/-- The tokens of a document.  A byte order mark at the start does not count. -/
def Tok.ofChars? (chars : List Char) : Option (List Tok) :=
  let chars := match chars with
    | '\ufeff' :: rest => rest
    | chars => chars
  if !chars.all isPrintable then none
  else
    let scan : Scan := ⟨⟨chars, 0, 0, 0⟩, #[], [], [none], true⟩
    (scan.finish? (chars.length + 2)).map Array.toList

def Tok.ofText? (source : String) : Option (List Tok) :=
  Tok.ofChars? source.toList

end FluentStyle.Yaml
