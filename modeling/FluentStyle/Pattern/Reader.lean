import FluentStyle.Pattern.Regex

/-!
# Reading regular expressions

The notation of regular expressions: alternatives, groups with flags or names, repetition, classes
in brackets with their own operations, named classes, anchors and escapes.  There is no looking
around and no reference back to a group.  Each reader takes a bound on the characters it may still
read, which is the length of the whole expression.
-/

namespace FluentStyle.Regex

/-!
# Flags

A group of flags switches on those before a hyphen and off those after it.  No letter may stand
twice, and one has to follow a hyphen.  The flag for greed does not matter.
-/

/-- What is switched on at a place of an expression. -/
structure Flags where
  caseless : Bool := false
  multiLine : Bool := false
  dotAll : Bool := false
  spaced : Bool := false
  carriageReturns : Bool := false
  unicode : Bool := true

namespace Flags

def set? (flags : Flags) (letter : Char) (value : Bool) : Option Flags :=
  match letter with
  | 'i' => some { flags with caseless := value }
  | 'm' => some { flags with multiLine := value }
  | 's' => some { flags with dotAll := value }
  | 'x' => some { flags with spaced := value }
  | 'R' => some { flags with carriageReturns := value }
  | 'u' => some { flags with unicode := value }
  | 'U' => some flags
  | _ => none

def read? (flags : Flags) (seen : List Char) (value : Bool) :
    List Char → Option (Flags × List Char)
  | [] => none
  | c :: rest =>
      if c = ':' ∨ c = ')' then
        if seen.head? = some '-' then none else some (flags, c :: rest)
      else if seen.contains c then none
      else if c = '-' then read? flags (c :: seen) false rest
      else
        match flags.set? c value with
        | none => none
        | some flags => read? flags (c :: seen) value rest

/-- The class with differences in case removed, if the flag for it is on. -/
def fold (flags : Flags) (charClass : CharClass) : CharClass :=
  if !flags.caseless then charClass
  else if flags.unicode then .caseless charClass
  else .caselessAscii charClass

/-!
# Characters

Where blanks and comments do not count, they are stepped over.  Without Unicode the complement of a
class would hold single bytes, and there is none.
-/

/-- The class or its complement.  Without Unicode, a complement would hold single bytes. -/
def negate? (flags : Flags) (negated : Bool) (charClass : CharClass) : Option CharClass :=
  if !negated then some charClass
  else if flags.unicode then some (.compl charClass)
  else none

def skipBlanks (flags : Flags) (inComment : Bool) : List Char → List Char
  | [] => []
  | c :: rest =>
      if !flags.spaced then c :: rest
      else if inComment then skipBlanks flags (c ≠ '\n') rest
      else if Text.isBlank c then skipBlanks flags false rest
      else if c = '#' then skipBlanks flags true rest
      else c :: rest

def trim (flags : Flags) (chars : List Char) : List Char :=
  skipBlanks flags false chars

end Flags

/-!
# Escapes

A backslash takes the meaning from a character that has one, or gives a meaning to one that has
none: code points after `x`, `u` and `U`, classes after `p` and `P`, and boundaries of words.
-/

def isMeta (c : Char) : Bool :=
  "\\.+*?()|[]\x7b\x7d^$#&-~".toList.contains c

def isEscapable (c : Char) : Bool :=
  isMeta c || (c.toNat < 128 && !c.isAlphanum && c ≠ '<' && c ≠ '>')

/-- What a backslash stands for. -/
inductive Escape where
  | char (c : Char)
  | set (charClass : CharClass)
  | assertion (assertion : Assertion)

def char? (code : Nat) : Option Char :=
  if code.isValidChar then some (Char.ofNat code) else none

def hexDigits? (digits : List Char) : Option Nat :=
  if digits ≠ [] ∧ digits.all (fun c => (Text.hexDigit? c).isSome) then
    some (Text.hexValue digits)
  else none

def readCodePoint? (size : Nat) : List Char → Option (Char × List Char)
  | '\x7b' :: rest =>
      match rest.span (· ≠ '\x7d') with
      | (digits, _ :: after) =>
          ((hexDigits? digits).bind char?).map (·, after)
      | (_, []) => none
  | chars =>
      if chars.length < size then none
      else ((hexDigits? (chars.take size)).bind char?).map (·, chars.drop size)

def bracedClass? (name : List Char) : Option CharClass :=
  match name.span (fun c => c ≠ '=' && c ≠ ':') with
  | (property, '=' :: value) =>
      if property.getLast? = some '!' then
        (CharClass.valued? property.dropLast value).map .compl
      else CharClass.valued? property value
  | (property, ':' :: value) => CharClass.valued? property value
  | _ => CharClass.named? name

def readNamedClass? : List Char → Option (CharClass × List Char)
  | '\x7b' :: rest =>
      match rest.span (· ≠ '\x7d') with
      | (name, _ :: after) => (bracedClass? name).map (·, after)
      | (_, []) => none
  | c :: rest => if c = '\\' then none else (CharClass.named? [c]).map (·, rest)
  | [] => none

def readBoundary? (unicode : Bool) : List Char → Option (Assertion × List Char)
  | '\x7b' :: c :: rest =>
      if !(c.isAlpha || c = '-') then some (.wordBoundary unicode, '\x7b' :: c :: rest)
      else
        match (c :: rest).span (fun c => c.isAlpha || c = '-') with
        | (name, '\x7d' :: after) =>
            match String.ofList name with
            | "start" => some (.wordStart unicode, after)
            | "end" => some (.wordEnd unicode, after)
            | "start-half" => some (.noWordBefore unicode, after)
            | "end-half" => some (.noWordAfter unicode, after)
            | _ => none
        | _ => none
  | ['\x7b'] => none
  | chars => some (.wordBoundary unicode, chars)

def readEscape? (flags : Flags) : List Char → Option (Escape × List Char)
  | [] => none
  | c :: rest =>
      let classOf (negated : Bool) (charClass : CharClass) : Option (Escape × List Char) :=
        (flags.negate? negated charClass).map fun charClass => (.set charClass, rest)
      let named (negated : Bool) : Option (Escape × List Char) :=
        if !flags.unicode then none
        else (readNamedClass? rest).bind fun (charClass, after) =>
          (flags.negate? negated (flags.fold charClass)).map fun charClass =>
            (.set charClass, after)
      let codePoint (size : Nat) : Option (Escape × List Char) :=
        (readCodePoint? size rest).map fun (c, after) => (.char c, after)
      match c with
      | 'x' =>
          -- Without Unicode, two digits are a byte, which is a character in ASCII only.
          (codePoint 2).filter fun
            | (.char c, _) => flags.unicode || c.toNat < 128 || rest.head? = some '\x7b'
            | _ => true
      | 'u' => codePoint 4
      | 'U' => codePoint 8
      | 'p' => named false
      | 'P' => named true
      | 'd' => classOf false (CharClass.digit flags.unicode)
      | 'D' => classOf true (CharClass.digit flags.unicode)
      | 's' => classOf false (CharClass.space flags.unicode)
      | 'S' => classOf true (CharClass.space flags.unicode)
      | 'w' => classOf false (CharClass.word flags.unicode)
      | 'W' => classOf true (CharClass.word flags.unicode)
      | 'a' => some (.char '\x07', rest)
      | 'f' => some (.char '\x0c', rest)
      | 't' => some (.char '\t', rest)
      | 'n' => some (.char '\n', rest)
      | 'r' => some (.char '\r', rest)
      | 'v' => some (.char '\x0b', rest)
      | 'A' => some (.assertion .textStart, rest)
      | 'z' => some (.assertion .textEnd, rest)
      | 'b' => (readBoundary? flags.unicode rest).map fun (a, after) => (.assertion a, after)
      | 'B' => some (.assertion (.notWordBoundary flags.unicode), rest)
      | '<' => some (.assertion (.wordStart flags.unicode), rest)
      | '>' => some (.assertion (.wordEnd flags.unicode), rest)
      | c => if isEscapable c then some (.char c, rest) else none

/-!
# Classes in brackets

A class is made of characters, ranges, named classes and other classes, with operations between
them.  Without Unicode its characters have to be single bytes.
-/

def readPosix? : List Char → Option (Bool × CharClass × List Char)
  | '[' :: ':' :: rest =>
      let (negated, rest) := match rest with
        | '^' :: rest => (true, rest)
        | rest => (false, rest)
      match rest.span (· ≠ ':') with
      | (name, ':' :: ']' :: after) =>
          (CharClass.posix? (String.ofList name)).map fun charClass => (negated, charClass, after)
      | _ => none
  | _ => none

def readElement? (flags : Flags) : List Char → Option (Escape × List Char)
  | [] => none
  | '\\' :: rest =>
      match readEscape? flags rest with
      | some (.assertion _, _) => none
      | result => result
  | c :: rest => some (.char c, rest)

/-- Whether the character may stand in a class.  Without Unicode it has to be a single byte. -/
def Flags.allowsInClass (flags : Flags) (c : Char) : Bool :=
  flags.unicode || c.toNat < 128

def Escape.class? (flags : Flags) : Escape → Option CharClass
  | .char c => if flags.allowsInClass c then some (.single c) else none
  | .set charClass => some charClass
  | .assertion _ => none

/-- Reads an element or a range of characters.  A hyphen before the closing bracket or before
another hyphen makes no range. -/
def readRange? (flags : Flags) (chars : List Char) : Option (CharClass × List Char) :=
  match readElement? flags chars with
  | none => none
  | some (first, after) =>
      match flags.trim after with
      | '-' :: rest =>
          match flags.trim rest with
          | [] => none
          | ']' :: _ => (first.class? flags).map (·, '-' :: rest)
          | '-' :: _ => (first.class? flags).map (·, '-' :: rest)
          | next =>
              match first, readElement? flags next with
              | .char first, some (.char last, after) =>
                  if first.toNat ≤ last.toNat && flags.allowsInClass last then
                    some (.between first.toNat last.toNat, after)
                  else none
              | _, _ => none
      | after => (first.class? flags).map (·, after)

def combine (flags : Flags) (operation : CharClass → CharClass → CharClass) (a b : CharClass) :
    CharClass :=
  operation (flags.fold a) (flags.fold b)

/-- Reads the rest of a class after its opening bracket; `pending` applies the operation before the
current operand to it, and `operand` is what was read of that. -/
def readClass? (flags : Flags) (pending : CharClass → CharClass) (operand : CharClass) :
    Nat → List Char → Option (CharClass × List Char)
  | 0, _ => none
  | fuel + 1, chars =>
      match flags.trim chars with
      | [] => none
      | ']' :: rest => some (pending operand, rest)
      | '&' :: '&' :: rest =>
          readClass? flags (combine flags .inter (pending operand)) .empty fuel rest
      | '-' :: '-' :: rest =>
          readClass? flags (combine flags .diff (pending operand)) .empty fuel rest
      | '~' :: '~' :: rest =>
          readClass? flags (combine flags .symmDiff (pending operand)) .empty fuel rest
      | '[' :: rest =>
          match readPosix? ('[' :: rest) with
          | some (negated, charClass, after) =>
              match flags.negate? negated charClass with
              | none => none
              | some charClass => readClass? flags pending (.union operand charClass) fuel after
          | none =>
              let (negated, literals, start) := openClass flags rest
              match readClass? flags id literals fuel start with
              | none => none
              | some (charClass, after) =>
                  match flags.negate? negated (flags.fold charClass) with
                  | none => none
                  | some inner => readClass? flags pending (.union operand inner) fuel after
      | other =>
          match readRange? flags other with
          | none => none
          | some (charClass, after) =>
              readClass? flags pending (.union operand charClass) fuel after
where
  /-- Reads what has a meaning of its own after an opening bracket: the sign of a complement, and
  hyphens or a closing bracket that stand for themselves. -/
  openClass (flags : Flags) (chars : List Char) : Bool × CharClass × List Char :=
    let (negated, chars) := match flags.trim chars with
      | '^' :: rest => (true, flags.trim rest)
      | chars => (false, chars)
    let hyphens := chars.takeWhile (· = '-')
    match chars.drop hyphens.length with
    | ']' :: rest =>
        if hyphens = [] then (negated, .single ']', rest)
        else (negated, .single '-', ']' :: rest)
    | rest => (negated, if hyphens = [] then .empty else .single '-', rest)

/-!
# Repetitions

Blanks may stand around the bounds of a repetition, but in front of a brace that closes after a
comma only where blanks do not count.  Whether a repetition is lazy does not matter.
-/

def readCount? (chars : List Char) : Option (Nat × List Char) :=
  let chars := chars.dropWhile Text.isBlank
  match chars.span Text.isDigit with
  | ([], _) => none
  | (digits, rest) =>
      let count := digits.foldl (fun n c => 10 * n + (c.toNat - '0'.toNat)) 0
      if count < UInt32.size then some (count, rest.dropWhile Text.isBlank) else none

/-- Reads the bounds of a repetition after the opening brace.  There may be blanks around a number,
but in front of a brace that closes after a comma only where blanks do not count. -/
def readBounds? (flags : Flags) (chars : List Char) : Option (Nat × Option Nat × List Char) :=
  match readCount? chars with
  | none => none
  | some (least, '\x7d' :: rest) => some (least, some least, rest)
  | some (least, ',' :: rest) =>
      match flags.trim rest with
      | '\x7d' :: rest => some (least, none, rest)
      | rest =>
          match readCount? rest with
          | some (most, '\x7d' :: rest) =>
              if least ≤ most then some (least, some most, rest) else none
          | _ => none
  | some _ => none

def skipLazy : List Char → List Char
  | '?' :: rest => rest
  | rest => rest

/-!
# Alternatives
-/

def readGroupName? (chars : List Char) : Option (List Char × List Char) :=
  match chars.span (· ≠ '>') with
  | (first :: name, '>' :: rest) =>
      if (first = '_' || Text.isLetter first) &&
          name.all (fun c => Text.isLetterOrNumeral c || "_.[]".toList.contains c) then
        some (first :: name, rest)
      else none
  | _ => none

/-- What a reader of an expression gives: the expression, the names of groups met so far, and the
rest. -/
structure Reading where
  regex : Regex
  names : List (List Char)
  rest : List Char

mutual

def readAlternatives? (flags : Flags) (names : List (List Char)) :
    Nat → List Char → Option Reading
  | 0, _ => none
  | fuel + 1, chars =>
      match readSequence? flags names .empty none fuel chars with
      | none => none
      | some (flags, ⟨first, names, '|' :: rest⟩) =>
          match readAlternatives? flags names fuel rest with
          | none => none
          | some ⟨others, names, rest⟩ => some ⟨.alt first others, names, rest⟩
      | some (_, reading) => some reading

/-- Reads one alternative.  The last part read is kept apart, because a repetition applies to it. -/
def readSequence? (flags : Flags) (names : List (List Char)) (before : Regex)
    (last : Option Regex) : Nat → List Char → Option (Flags × Reading)
  | 0, _ => none
  | fuel + 1, chars =>
      let all := match last with
        | none => before
        | some part => .seq before part
      let repeated (least : Nat) (most : Option Nat) (rest : List Char) :
          Option (Flags × Reading) :=
        match last with
        | none => none
        | some part =>
            readSequence? flags names before (some (.repeat part least most)) fuel (skipLazy rest)
      let continued (part : Regex) (rest : List Char) : Option (Flags × Reading) :=
        readSequence? flags names all (some part) fuel rest
      match flags.trim chars with
      | [] => some (flags, ⟨all, names, []⟩)
      | '|' :: rest => some (flags, ⟨all, names, '|' :: rest⟩)
      | ')' :: rest => some (flags, ⟨all, names, ')' :: rest⟩)
      | '*' :: rest => repeated 0 none rest
      | '+' :: rest => repeated 1 none rest
      | '?' :: rest => repeated 0 (some 1) rest
      | '\x7b' :: rest =>
          match readBounds? flags rest with
          | none => none
          | some (least, most, rest) => repeated least most rest
      | '(' :: '?' :: rest =>
          match rest with
          | '=' :: _ => none
          | '!' :: _ => none
          | 'P' :: '<' :: rest | '<' :: rest =>
              match readGroupName? rest with
              | none => none
              | some (name, rest) =>
                  if names.contains name then none
                  else
                    match readAlternatives? flags (name :: names) fuel rest with
                    | some ⟨inner, names, ')' :: rest⟩ =>
                        readSequence? flags names all (some inner) fuel rest
                    | _ => none
          | rest =>
              match flags.read? [] true rest with
              | some (inner, ':' :: rest) =>
                  match readAlternatives? inner names fuel rest with
                  | some ⟨inner, names, ')' :: rest⟩ =>
                      readSequence? flags names all (some inner) fuel rest
                  | _ => none
              | some (changed, ')' :: after) =>
                  if rest.head? = some ')' then none
                  else readSequence? changed names all none fuel after
              | _ => none
      | '(' :: rest =>
          match readAlternatives? flags names fuel rest with
          | some ⟨inner, names, ')' :: rest⟩ =>
              readSequence? flags names all (some inner) fuel rest
          | _ => none
      | '[' :: rest =>
          let (negated, literals, start) := readClass?.openClass flags rest
          match readClass? flags id literals fuel start with
          | none => none
          | some (charClass, after) =>
              match flags.negate? negated (flags.fold charClass) with
              | none => none
              | some charClass => continued (.oneOf charClass) after
      | '\\' :: rest =>
          match readEscape? flags rest with
          | none => none
          | some (.char c, after) => continued (.oneOf (flags.fold (.single c))) after
          | some (.set charClass, after) => continued (.oneOf charClass) after
          | some (.assertion condition, after) => continued (.assertion condition) after
      | '.' :: rest =>
          if !flags.unicode then none
          else if flags.dotAll then continued (.oneOf .any) rest
          else if flags.carriageReturns then
            continued (.oneOf (.compl (.ofList ['\r', '\n']))) rest
          else continued (.oneOf (.compl (.single '\n'))) rest
      | '^' :: rest =>
          continued (.assertion
            (if flags.multiLine then .lineStart flags.carriageReturns else .textStart)) rest
      | '$' :: rest =>
          continued (.assertion
            (if flags.multiLine then .lineEnd flags.carriageReturns else .textEnd)) rest
      | c :: rest => continued (.oneOf (flags.fold (.single c))) rest

end

def parse? (source : String) : Option Regex :=
  let chars := source.toList
  match readAlternatives? {} [] (2 * chars.length + 2) chars with
  | some ⟨regex, _, []⟩ => some regex
  | _ => none

end FluentStyle.Regex
