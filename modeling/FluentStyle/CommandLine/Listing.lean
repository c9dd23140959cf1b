import FluentStyle.Catalog.Conventions
import FluentStyle.Text.Color
import FluentStyle.Text.Split

/-!
# Listings of trees

A tree is listed with one node on a line, indented by its depth.  A line has the part that the node
plays in the one above it, the kind of the node, its text, and for a call its category.
-/

namespace FluentStyle

/-!
# Lines

The part that a node plays is told only where it is worth telling: that of a value of an array, for
one, only beside a key.
-/

structure ListedNode where
  depth : Nat
  /-- The part that the node plays, if it is worth telling. -/
  part : Option String
  kind : String
  text : String
  category : Option Category
deriving DecidableEq, Repr

namespace ListedNode

def plain (depth : Nat) (part : Option String) (kind text : String) : ListedNode :=
  ⟨depth, part, kind, text, none⟩

def line (node : ListedNode) : String :=
  let indentation := String.ofList (List.replicate (2 * node.depth) ' ')
  let part := match node.part with
    | none => ""
    | some part => Text.colored .cyan (part ++ ":") ++ " "
  let text := if node.text = "" then "" else " " ++ Text.dim node.text
  let category := match node.category with
    | none => ""
    | some category => " " ++ Text.colored .magenta ("[" ++ category.name ++ "]")
  indentation ++ part ++ Text.colored .green node.kind ++ text ++ category

def call (style : Conventions) (depth : Nat) (name : String) : ListedNode :=
  ⟨depth, none, "call", name, some (style.category name)⟩

def chain (style : Conventions) (depth : Nat) (part : Option String) (chain : Chain) :
    ListedNode :=
  let kind := if style.isDeclaration chain then "declaration" else "chain"
  plain depth part kind (chain.className?.getD "")

def closure (depth : Nat) (part : Option String) (params : List Param) : ListedNode :=
  let texts := params.map fun param =>
    match param.hint with
    | none => param.name
    | some ⟨nullable, hint⟩ => (if nullable then "?" else "") ++ hint ++ " " ++ param.name
  plain depth part "closure" ("(" ++ Text.join ", " texts ++ ")")

def captures (depth : Nat) : List Capture → List ListedNode
  | [] => []
  | captures =>
      let texts := captures.map fun capture =>
        (if capture.byReference then "&" else "") ++ capture.name
      [plain depth none "use" (Text.join ", " texts)]

end ListedNode

open ListedNode

/-!
# Nodes of a tree
-/

mutual

def Expr.listed (style : Conventions) (depth : Nat) (part : Option String) :
    Expr → List ListedNode
  | .literal literal => [plain depth part "string" literal.raw]
  | .number raw => [plain depth part "number" raw]
  | .constant name => [plain depth part "const" name]
  | .classConstant className name => [plain depth part "const" (className ++ "::" ++ name)]
  | .variable name => [plain depth part "var" name]
  | .array items => plain depth part "array" "" :: ArrayItem.listed style (depth + 1) items
  | .closure (.arrow params body) =>
      closure depth part params :: body.listed style (depth + 1) (some "body")
  | .closure (.block params captured body) =>
      closure depth part params :: captures (depth + 1) captured ++
        Stmt.listed style (depth + 1) body
  | .chain ⟨.receiver object, ⟨name, args⟩, rest⟩ =>
      chain style depth part ⟨.receiver object, ⟨name, args⟩, rest⟩ ::
        object.listed style (depth + 1) (some "receiver") ++
        call style (depth + 1) name :: Expr.listedAll style (depth + 2) args ++
        Call.listed style (depth + 1) rest
  | .chain ⟨.static className, ⟨name, args⟩, rest⟩ =>
      chain style depth part ⟨.static className, ⟨name, args⟩, rest⟩ ::
        call style (depth + 1) name :: Expr.listedAll style (depth + 2) args ++
        Call.listed style (depth + 1) rest
  | .chain ⟨.function, ⟨name, args⟩, rest⟩ =>
      chain style depth part ⟨.function, ⟨name, args⟩, rest⟩ ::
        call style (depth + 1) name :: Expr.listedAll style (depth + 2) args ++
        Call.listed style (depth + 1) rest
  | .property object name =>
      plain depth part "property" name :: object.listed style (depth + 1) (some "object")
  | .unary op operand =>
      plain depth part "unary" op.spelling :: operand.listed style (depth + 1) none
  | .binary op lhs rhs =>
      plain depth part "binary" op.spelling :: lhs.listed style (depth + 1) (some "lhs") ++
        rhs.listed style (depth + 1) (some "rhs")
  | .ternary condition yes no =>
      plain depth part "ternary" "" :: condition.listed style (depth + 1) (some "cond") ++
        yes.listed style (depth + 1) (some "then") ++ no.listed style (depth + 1) (some "else")
  | .elvis condition no =>
      plain depth part "ternary" "" :: condition.listed style (depth + 1) (some "cond") ++
        no.listed style (depth + 1) (some "else")
  | .group inner => plain depth part "group" "" :: inner.listed style (depth + 1) none

def Expr.listedAll (style : Conventions) (depth : Nat) : List Expr → List ListedNode
  | [] => []
  | arg :: rest => arg.listed style depth (some "arg") ++ Expr.listedAll style depth rest

def ArrayItem.listed (style : Conventions) (depth : Nat) : List ArrayItem → List ListedNode
  | [] => []
  | .value value :: rest => value.listed style depth none ++ ArrayItem.listed style depth rest
  | .pair key value :: rest =>
      key.listed style depth (some "key") ++ value.listed style depth (some "value") ++
        ArrayItem.listed style depth rest

def Call.listed (style : Conventions) (depth : Nat) : List Call → List ListedNode
  | [] => []
  | ⟨name, args⟩ :: rest =>
      call style depth name :: Expr.listedAll style (depth + 1) args ++ Call.listed style depth rest

def Stmt.listed (style : Conventions) (depth : Nat) : List Stmt → List ListedNode
  | [] => []
  | .leave :: rest => plain depth none "return" "" :: Stmt.listed style depth rest
  | .give value :: rest =>
      plain depth none "return" "" :: value.listed style (depth + 1) none ++
        Stmt.listed style depth rest
  | .expr expr :: rest => expr.listed style depth (some "stmt") ++ Stmt.listed style depth rest
  | .assign target value :: rest =>
      plain depth none "assign" target :: value.listed style (depth + 1) (some "value") ++
        Stmt.listed style depth rest
  | .when condition yes :: rest =>
      plain depth none "if" "" :: condition.listed style (depth + 1) (some "cond") ++
        plain (depth + 1) none "then" "" :: Stmt.listed style (depth + 2) yes ++
        Stmt.listed style depth rest
  | .choose condition yes no :: rest =>
      plain depth none "if" "" :: condition.listed style (depth + 1) (some "cond") ++
        plain (depth + 1) none "then" "" :: Stmt.listed style (depth + 2) yes ++
        plain (depth + 1) none "else" "" :: Stmt.listed style (depth + 2) no ++
        Stmt.listed style depth rest

end

def Fragment.listing (style : Conventions) (fragment : Fragment) : List String :=
  fragment.items.flatMap fun item => (item.listed style 0 none).map ListedNode.line

end FluentStyle
