import FluentStyle.SyntaxError
import FluentStyle.Text.Letter
import FluentStyle.Text.Position

/-!
# Reading tokens

`Token.read` reads one token from the front of a text that does not start with a blank;
`Lexeme.scan` reads tokens until the text ends or a fault is met.  Among the signs the longest
spelling wins.
-/

namespace FluentStyle

namespace Token

/-!
# Signs

Signs without a token are not supported.
-/

def signs : List (List Char × Option Token) :=
  [ (['=', '=', '='], some (.operator .identical)),
    (['!', '=', '='], some (.operator .notIdentical)),
    (['*', '*', '='], none),
    (['?', '?', '='], none),
    (['<', '=', '>'], none),
    (['?', '-', '>'], none),
    (['.', '.', '.'], none),
    (['-', '>'], some (.mark .arrow)),
    ([':', ':'], some (.mark .doubleColon)),
    (['=', '>'], some (.mark .fatArrow)),
    (['=', '='], some (.operator .equal)),
    (['!', '='], some (.operator .notEqual)),
    (['<', '='], some (.operator .lessEqual)),
    (['>', '='], some (.operator .greaterEqual)),
    (['&', '&'], some (.operator .and)),
    (['|', '|'], some (.operator .or)),
    (['?', '?'], some (.operator .coalesce)),
    (['+', '+'], none),
    (['-', '-'], none),
    (['+', '='], none),
    (['-', '='], none),
    (['*', '='], none),
    (['/', '='], none),
    (['.', '='], none),
    (['%', '='], none),
    (['<', '<'], none),
    (['>', '>'], none),
    (['*', '*'], none),
    (['('], some (.opening .round)),
    (['['], some (.opening .square)),
    (['\x7b'], some (.opening .curly)),
    ([')'], some (.closing .round)),
    ([']'], some (.closing .square)),
    (['\x7d'], some (.closing .curly)),
    ([','], some (.mark .comma)),
    ([';'], some (.mark .semicolon)),
    (['='], some (.mark .assign)),
    (['?'], some (.mark .question)),
    ([':'], some (.mark .colon)),
    (['!'], some (.mark .bang)),
    (['&'], some (.mark .ampersand)),
    (['<'], some (.operator .less)),
    (['>'], some (.operator .greater)),
    (['.'], some (.operator .concat)),
    (['+'], some (.operator .add)),
    (['-'], some (.operator .subtract)),
    (['*'], some (.operator .multiply)),
    (['/'], some (.operator .divide)),
    (['%'], some (.operator .remainder)),
    (['|'], none),
    (['^'], none),
    (['~'], none),
    (['@'], none),
    (['\x60'], none) ]

def sign? (text : List Char) : Option (List Char × Option Token) :=
  signs.find? fun (spelling, _) => spelling.isPrefixOf text

/-!
# Numbers and literals

A number starts with a digit, or with a point before one, and holds at most one point.  In a literal
a backslash takes the next character with it.
-/

def startsComment : List Char → Bool
  | '#' :: _ => true
  | '/' :: '/' :: _ => true
  | '/' :: '*' :: _ => true
  | _ => false

def startsNumber : List Char → Bool
  | '.' :: c :: _ => Text.isDigit c
  | c :: _ => Text.isDigit c
  | [] => false

def spanNumber (pointSeen : Bool) : List Char → List Char × List Char
  | [] => ([], [])
  | c :: rest =>
      if c = '.' ∧ pointSeen = false then
        let (digits, after) := spanNumber true rest
        (c :: digits, after)
      else if Text.isDigit c ∨ c = '_' then
        let (digits, after) := spanNumber pointSeen rest
        (c :: digits, after)
      else ([], c :: rest)

/-- What follows the opening quote up to and with the closing one, and what follows that.  A
backslash takes the next character with it. -/
def spanLiteral? (quote : Char) : List Char → Option (List Char × List Char)
  | [] => none
  | '\\' :: c :: rest => (spanLiteral? quote rest).map fun (body, after) => ('\\' :: c :: body, after)
  | c :: rest =>
      if c = quote then some ([c], rest)
      else (spanLiteral? quote rest).map fun (body, after) => (c :: body, after)

/-!
# Words

Names may hold namespace separators, which names of variables do not.
-/

def isWordChar (c : Char) : Bool :=
  Text.isLetterOrNumeral c || c = '_'

def isNameChar (c : Char) : Bool :=
  isWordChar c || c = '\\'

def startsName (c : Char) : Bool :=
  Text.isLetter c || c = '_' || c = '\\'

/-!
# Reading a token
-/

/-- The token at the front of a text that does not start with a blank, and the text after it. -/
def read (c : Char) (rest : List Char) : Except Reason (Token × List Char) :=
  if startsComment (c :: rest) then .error .comment
  else if startsNumber (c :: rest) then
    let (digits, after) := spanNumber (c = '.') rest
    .ok (.number (String.ofList (c :: digits)), after)
  else
    match sign? (c :: rest) with
    | some (spelling, some token) => .ok (token, rest.drop (spelling.length - 1))
    | some (spelling, none) => .error (.unsupportedOperator (String.ofList spelling))
    | none =>
        if c = '\'' ∨ c = '"' then
          match spanLiteral? c rest with
          | some (body, after) => .ok (.literal (String.ofList (c :: body)), after)
          | none => .error .unterminatedLiteral
        else if c = '$' then
          match rest.takeWhile isWordChar with
          | [] => .error .namelessVariable
          | word => .ok (.variable (String.ofList (c :: word)), rest.dropWhile isWordChar)
        else if startsName c then
          .ok (.name (String.ofList (c :: rest.takeWhile isNameChar)), rest.dropWhile isNameChar)
        else .error (.unexpectedCharacter c)

theorem spanNumber_append (pointSeen : Bool) (text : List Char) :
    (spanNumber pointSeen text).1 ++ (spanNumber pointSeen text).2 = text := by
  induction text generalizing pointSeen with
  | nil => rfl
  | cons c rest ih =>
      simp only [spanNumber]
      split
      · simp [ih]
      · split
        · simp [ih]
        · rfl

theorem spanLiteral?_append {quote : Char} {text body after : List Char}
    (h : spanLiteral? quote text = some (body, after)) : body ++ after = text := by
  fun_induction spanLiteral? quote text generalizing body after with
  | case1 => simp at h
  | case2 c rest ih =>
      rcases Option.map_eq_some_iff.1 h with ⟨⟨body', after'⟩, hspan, heq⟩
      cases heq
      simp [ih hspan]
  | case3 c rest =>
      cases h
      simp
  | case4 c rest _ _ ih =>
      rcases Option.map_eq_some_iff.1 h with ⟨⟨body', after'⟩, hspan, heq⟩
      cases heq
      simp [ih hspan]

theorem length_le_of_read {c : Char} {rest after : List Char} {token : Token}
    (h : read c rest = .ok (token, after)) : after.length ≤ rest.length := by
  unfold read at h
  split at h
  · cases h
  · split at h
    · cases h
      have := congrArg List.length (spanNumber_append (decide (c = '.')) rest)
      simp only [List.length_append] at this
      omega
    · split at h
      · cases h
        simp
      · cases h
      · split at h
        · split at h
          · rename_i hspan
            cases h
            have := congrArg List.length (spanLiteral?_append hspan)
            simp only [List.length_append] at this
            omega
          · cases h
        · split at h
          · split at h
            · cases h
            · cases h
              exact (List.dropWhile_suffix _).length_le
          · split at h
            · cases h
              exact (List.dropWhile_suffix _).length_le
            · cases h

end Token

namespace Lexeme

/-!
# Reading all tokens

A bracket that does not match is met before a later fault of a token; a bracket that is left open is
only seen at the end.
-/

/-- The tokens of a text that starts at the given byte, up to the first fault. -/
def scanFrom (position : Nat) : List Char → List Lexeme × Option SyntaxError
  | [] => ([], none)
  | c :: rest =>
      if Text.isBlank c then scanFrom (position + c.utf8Size) rest
      else
        match _reading : Token.read c rest with
        | .error reason => ([], some ⟨position, reason⟩)
        | .ok (token, after) =>
            let (lexemes, fault) := scanFrom (position + token.text.utf8ByteSize) after
            (⟨token, position⟩ :: lexemes, fault)
termination_by text => text.length
decreasing_by
  · simp
  · have := Token.length_le_of_read _reading
    simp only [List.length_cons]
    omega

/-- The brackets left open by the lexemes, innermost first, given those open before them; or the
first closing bracket that does not match. -/
def balance : List (Bracket × Nat) → List Lexeme → Except SyntaxError (List (Bracket × Nat))
  | stack, [] => .ok stack
  | stack, ⟨.opening bracket, position⟩ :: rest => balance ((bracket, position) :: stack) rest
  | stack, ⟨.closing bracket, position⟩ :: rest =>
      match stack with
      | [] => .error ⟨position, .unbalanced bracket none⟩
      | (innermost, opened) :: stack =>
          if innermost = bracket then balance stack rest
          else .error ⟨position, .unbalanced bracket (some (innermost, opened))⟩
  | stack, _ :: rest => balance stack rest

/-- The tokens of a source text, with balanced brackets.  A bracket that does not match is met
before a later fault of a token; a bracket left open is only seen at the end. -/
def tokenize (source : String) : Except SyntaxError (List Lexeme) :=
  let (lexemes, fault) := scanFrom 0 source.toList
  match balance [] lexemes with
  | .error error => .error error
  | .ok stillOpen =>
      match fault, stillOpen with
      | some error, _ => .error error
      | none, (bracket, position) :: _ => .error ⟨position, .unclosed bracket⟩
      | none, [] => .ok lexemes

end Lexeme

end FluentStyle
