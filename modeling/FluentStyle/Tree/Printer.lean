import FluentStyle.Token.Basic
import FluentStyle.Tree.Traversal

/-!
# The canonical layout

A tree is laid out as a list of pieces: tokens and the blanks between them.  The rules are:

* a static chain with more than one call has one call on a line;
* an array that holds such a chain or a block closure as a value has one element on a line, each
  followed by a comma;
* a block closure has one statement on a line;
* all else stays on its line.

Every function takes the indentation of the line on which its tree starts.
-/

namespace FluentStyle

/-!
# Pieces

One step of indentation is four spaces.
-/

/-- A part of a laid out text. -/
inductive Piece where
  | token (token : Token)
  | space
  /-- A line feed and the indentation of the line it starts. -/
  | line (indentation : Nat)
deriving DecidableEq, Repr

namespace Piece

def text : Piece → String
  | .token t => t.text
  | .space => " "
  | .line indentation => "\n" ++ String.ofList (List.replicate (4 * indentation) ' ')

def textAll (pieces : List Piece) : String :=
  String.join (pieces.map text)

def token? : Piece → Option Token
  | .token t => some t
  | .space | .line _ => none

def mark (mark : Mark) : Piece :=
  .token (.mark mark)

end Piece

/-!
# Tokens

The name of a call is a variable where a variable is called.
-/

def UnaryOp.token : UnaryOp → Token
  | .not => .mark .bang
  | .negate => .operator .subtract

def BinaryOp.token : BinaryOp → Token
  | .sign operator => .operator operator
  | .wordAnd => .name "and"
  | .wordOr => .name "or"

def Call.nameToken (name : String) : Token :=
  if name.toList.head? = some '$' then .variable name else .name name

/-!
# Tall expressions

A chain is tall if it has one call on a line, and a tall value makes an array have one element on a
line.
-/

def Chain.isTall (chain : Chain) : Bool :=
  match chain.root with
  | .static _ => !chain.rest.isEmpty
  | .function | .receiver _ => false

def Expr.isTall : Expr → Bool
  | .chain c => c.isTall
  | .closure (.block ..) => true
  | _ => false

def ArrayItem.anyTall (items : List ArrayItem) : Bool :=
  items.any fun
    | .value e => e.isTall
    | .pair _ e => e.isTall

/-!
# Lists of pieces

Neighbours have a comma and a space between them.  A parameter list stands in parentheses, and
behind a `use` clause there is a space; without captures there is no clause.
-/

def Piece.separated : List (List Piece) → List Piece
  | [] => []
  | [pieces] => pieces
  | pieces :: rest => pieces ++ Piece.mark .comma :: Piece.space :: Piece.separated rest

namespace Param

def pieces (param : Param) : List Piece :=
  match param.hint with
  | none => [.token (.variable param.name)]
  | some ⟨nullable, hint⟩ =>
      (if nullable then [Piece.mark .question] else []) ++
        [.token (.name hint), .space, .token (.variable param.name)]

def piecesAll (params : List Param) : List Piece :=
  .token (.opening .round) :: Piece.separated (params.map pieces) ++ [.token (.closing .round)]

end Param

namespace Capture

def pieces (capture : Capture) : List Piece :=
  (if capture.byReference then [Piece.mark .ampersand] else []) ++ [.token (.variable capture.name)]

def piecesAll : List Capture → List Piece
  | [] => []
  | captures =>
      [.token (.name "use"), .space, .token (.opening .round)] ++
        Piece.separated (captures.map pieces) ++ [.token (.closing .round), .space]

end Capture

/-!
# Trees as pieces

All elements but the first have a comma and a space in front, and all calls but the first an arrow,
which stands on a new line in a tall chain.
-/

def Piece.separator (first : Bool) : List Piece :=
  if first then [] else [Piece.mark .comma, .space]

/-- What stands in front of a call after the first: an arrow, on a new line in a tall chain. -/
def Piece.callArrow (tall : Bool) (level : Nat) : List Piece :=
  if tall then [.line level, Piece.mark .arrow] else [Piece.mark .arrow]

mutual

def Expr.pieces (level : Nat) : Expr → List Piece
  | .literal literal => [.token (.literal literal.raw)]
  | .number raw => [.token (.number raw)]
  | .constant name => [.token (.name name)]
  | .classConstant className name =>
      [.token (.name className), Piece.mark .doubleColon, .token (.name name)]
  | .variable name => [.token (.variable name)]
  | .array items =>
      if ArrayItem.anyTall items then
        .token (.opening .square) :: ArrayItem.lines (level + 1) items ++
          [.line level, .token (.closing .square)]
      else
        .token (.opening .square) :: ArrayItem.inline level true items ++
          [.token (.closing .square)]
  | .closure (.arrow params body) =>
      [.token (.name "fn"), .space] ++ Param.piecesAll params ++
        [.space, Piece.mark .fatArrow, .space] ++ body.pieces level
  | .closure (.block params captures body) =>
      [.token (.name "function"), .space] ++ Param.piecesAll params ++ [.space] ++
        Capture.piecesAll captures ++ .token (.opening .curly) :: Stmt.lines (level + 1) body ++
        [.line level, .token (.closing .curly)]
  | .chain ⟨.static className, ⟨name, args⟩, rest⟩ =>
      let tall := !rest.isEmpty
      [.token (.name className), Piece.mark .doubleColon, .token (Call.nameToken name),
        .token (.opening .round)] ++ Expr.inline level true args ++ .token (.closing .round) ::
        Call.pieces tall (if tall then level + 1 else level) rest
  | .chain ⟨.function, ⟨name, args⟩, rest⟩ =>
      [.token (Call.nameToken name), .token (.opening .round)] ++ Expr.inline level true args ++
        .token (.closing .round) :: Call.pieces false level rest
  | .chain ⟨.receiver object, ⟨name, args⟩, rest⟩ =>
      object.pieces level ++
        [Piece.mark .arrow, .token (Call.nameToken name), .token (.opening .round)] ++
        Expr.inline level true args ++ .token (.closing .round) :: Call.pieces false level rest
  | .property object name => object.pieces level ++ [Piece.mark .arrow, .token (.name name)]
  | .unary op operand =>
      -- Two minus signs side by side would be one sign of another operator.
      let gap := match op, operand with
        | .negate, .unary .negate _ => [Piece.space]
        | _, _ => []
      .token op.token :: gap ++ operand.pieces level
  | .binary op lhs rhs =>
      lhs.pieces level ++ [.space, .token op.token, .space] ++ rhs.pieces level
  | .ternary condition yes no =>
      condition.pieces level ++ [.space, Piece.mark .question, .space] ++ yes.pieces level ++
        [.space, Piece.mark .colon, .space] ++ no.pieces level
  | .elvis condition no =>
      condition.pieces level ++ [.space, Piece.mark .question, Piece.mark .colon, .space] ++
        no.pieces level
  | .group inner =>
      .token (.opening .round) :: inner.pieces level ++ [.token (.closing .round)]

def Expr.inline (level : Nat) (first : Bool) : List Expr → List Piece
  | [] => []
  | expr :: rest => Piece.separator first ++ expr.pieces level ++ Expr.inline level false rest

def ArrayItem.inline (level : Nat) (first : Bool) : List ArrayItem → List Piece
  | [] => []
  | .value value :: rest =>
      Piece.separator first ++ value.pieces level ++ ArrayItem.inline level false rest
  | .pair key value :: rest =>
      Piece.separator first ++ key.pieces level ++ [.space, Piece.mark .fatArrow, .space] ++
        value.pieces level ++ ArrayItem.inline level false rest

/-- The pieces of array elements, each on a line of its own and followed by a comma. -/
def ArrayItem.lines (level : Nat) : List ArrayItem → List Piece
  | [] => []
  | .value value :: rest =>
      .line level :: value.pieces level ++ Piece.mark .comma :: ArrayItem.lines level rest
  | .pair key value :: rest =>
      .line level :: key.pieces level ++ [.space, Piece.mark .fatArrow, .space] ++
        value.pieces level ++ Piece.mark .comma :: ArrayItem.lines level rest

def Call.pieces (tall : Bool) (level : Nat) : List Call → List Piece
  | [] => []
  | ⟨name, args⟩ :: rest =>
      Piece.callArrow tall level ++ [.token (Call.nameToken name), .token (.opening .round)] ++
        Expr.inline level true args ++ .token (.closing .round) :: Call.pieces tall level rest

def Stmt.lines (level : Nat) : List Stmt → List Piece
  | [] => []
  | .leave :: rest =>
      [.line level, .token (.name "return"), Piece.mark .semicolon] ++ Stmt.lines level rest
  | .give value :: rest =>
      [.line level, .token (.name "return"), .space] ++ value.pieces level ++
        Piece.mark .semicolon :: Stmt.lines level rest
  | .expr expr :: rest =>
      .line level :: expr.pieces level ++ Piece.mark .semicolon :: Stmt.lines level rest
  | .assign target value :: rest =>
      [.line level, .token (.variable target), .space, Piece.mark .assign, .space] ++
        value.pieces level ++ Piece.mark .semicolon :: Stmt.lines level rest
  | .when condition yes :: rest =>
      [.line level, .token (.name "if"), .space, .token (.opening .round)] ++
        condition.pieces level ++
        [.token (.closing .round), .space, .token (.opening .curly)] ++
        Stmt.lines (level + 1) yes ++ [.line level, .token (.closing .curly)] ++
        Stmt.lines level rest
  | .choose condition yes no :: rest =>
      [.line level, .token (.name "if"), .space, .token (.opening .round)] ++
        condition.pieces level ++
        [.token (.closing .round), .space, .token (.opening .curly)] ++
        Stmt.lines (level + 1) yes ++
        [.line level, .token (.closing .curly), .space, .token (.name "else"), .space,
          .token (.opening .curly)] ++
        Stmt.lines (level + 1) no ++ [.line level, .token (.closing .curly)] ++
        Stmt.lines level rest

end

namespace Expr

/-!
# Texts

The arguments of a call are separated by a comma and a space.  Each item of a fragment stands on a
line of its own.
-/

def render (expr : Expr) : String :=
  Piece.textAll (expr.pieces 0)

end Expr

namespace Call

def argText (args : List Expr) : String :=
  Piece.textAll (Expr.inline 0 true args)

def render (call : Call) : String :=
  call.name ++ "(" ++ argText call.args ++ ")"

end Call

namespace Ending

def pieces : Ending → List Piece
  | .none => []
  | .comma => [Piece.mark .comma]
  | .semicolon => [Piece.mark .semicolon]

end Ending

namespace Fragment

def itemPieces : List Expr → List Piece
  | [] => []
  | [item] => item.pieces 0
  | item :: rest => item.pieces 0 ++ Piece.mark .comma :: Piece.line 0 :: itemPieces rest

def pieces (fragment : Fragment) : List Piece :=
  itemPieces fragment.items ++ (if fragment.items.isEmpty then [] else fragment.ending.pieces)

def render (fragment : Fragment) : String :=
  Piece.textAll fragment.pieces

end Fragment

end FluentStyle
