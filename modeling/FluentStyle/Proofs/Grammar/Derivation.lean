import FluentStyle.Proofs.Grammar.Shape

/-!
# Derivations

The grammar of fragments, said apart from the readers: which lists of tokens are phrases of which
kind.  The rules stand in the order of the lines of the grammar.  They leave open how a text is to
be taken apart where that can be done in several ways: operators are not ranked, and the body of an
arrow function may end anywhere.
-/

namespace FluentStyle

inductive Phrase where
  | fragment
  | expr
  | binary
  | unary
  | applied
  | primary
  | closure
  | element
  | parameter
  | captures
  | capture
  | block
  | statements
  | statement
  /-- Items with commas between them, none, one or more; a comma may follow the last one. -/
  | items (item : Phrase)
  /-- Items in brackets. -/
  | list (bracket : Bracket) (item : Phrase)

def Token.enclosed (bracket : Bracket) (tokens : List Token) : List Token :=
  .opening bracket :: (tokens ++ [.closing bracket])

namespace Phrase

/-- The tokens are a phrase of the kind. -/
inductive Derives : Phrase → List Token → Prop where
  -- expr ("," expr)* ("," | ";")?
  | last {item : List Token} (h : Derives expr item) : Derives fragment item
  | lastComma {item : List Token} (h : Derives expr item) :
      Derives fragment (item ++ [.mark .comma])
  | lastSemicolon {item : List Token} (h : Derives expr item) :
      Derives fragment (item ++ [.mark .semicolon])
  | next {item others : List Token} (h : Derives expr item) (hothers : Derives fragment others) :
      Derives fragment (item ++ .mark .comma :: others)
  -- binary ("?" expr? ":" expr)?
  | operation {tokens : List Token} (h : Derives binary tokens) : Derives expr tokens
  | ternary {condition yes no : List Token} (h : Derives binary condition) (hyes : Derives expr yes)
      (hno : Derives expr no) :
      Derives expr (condition ++ .mark .question :: (yes ++ .mark .colon :: no))
  | elvis {condition no : List Token} (h : Derives binary condition) (hno : Derives expr no) :
      Derives expr (condition ++ .mark .question :: .mark .colon :: no)
  -- unary (operator unary)*
  | operand {tokens : List Token} (h : Derives unary tokens) : Derives binary tokens
  | operator {lhs rhs : List Token} {token : Token} {op : BinaryOp} (h : Derives binary lhs)
      (hop : token.binaryOp? = some op) (hrhs : Derives unary rhs) :
      Derives binary (lhs ++ token :: rhs)
  -- ("!" | "-") unary | applied
  | signed {tokens : List Token} (op : UnaryOp) (h : Derives unary tokens) :
      Derives unary (op.token :: tokens)
  | unsigned {tokens : List Token} (h : Derives applied tokens) : Derives unary tokens
  -- primary ("->" name arguments? | arguments)*, where arguments follow a bare variable only
  | bare {tokens : List Token} (h : Derives primary tokens) : Derives applied tokens
  | property {tokens : List Token} (h : Derives applied tokens) (name : String) :
      Derives applied (tokens ++ [.mark .arrow, .name name])
  | method {tokens args : List Token} (h : Derives applied tokens) (name : String)
      (hargs : Derives (list .round expr) args) :
      Derives applied (tokens ++ .mark .arrow :: .name name :: args)
  | invocation {args : List Token} (name : String) (hargs : Derives (list .round expr) args) :
      Derives applied (.variable name :: args)
  -- literal | number | $var | array | closure | "(" expr ")"
  | literal (raw : String) : Derives primary [.literal raw]
  | number (raw : String) : Derives primary [.number raw]
  | variable (name : String) : Derives primary [.variable name]
  | array {tokens : List Token} (h : Derives (list .square element) tokens) : Derives primary tokens
  | function {tokens : List Token} (h : Derives closure tokens) : Derives primary tokens
  | group {tokens : List Token} (h : Derives expr tokens) :
      Derives primary (Token.enclosed .round tokens)
  -- name "::" name arguments | name "::" name | name arguments | name
  | staticCall {args : List Token} {className : String} (h : className ∉ Expr.keywords)
      (name : String) (hargs : Derives (list .round expr) args) :
      Derives primary (.name className :: .mark .doubleColon :: .name name :: args)
  | classConstant {className : String} (h : className ∉ Expr.keywords) (name : String) :
      Derives primary [.name className, .mark .doubleColon, .name name]
  | call {args : List Token} {name : String} (h : name ∉ Expr.keywords)
      (hargs : Derives (list .round expr) args) : Derives primary (.name name :: args)
  | constant {name : String} (h : name ∉ Expr.keywords) : Derives primary [.name name]
  -- "fn" parameters "=>" expr | "function" parameters ("use" "(" captures ")")? block
  | arrow {params body : List Token} (h : Derives (list .round parameter) params)
      (hbody : Derives expr body) :
      Derives closure (.name "fn" :: (params ++ .mark .fatArrow :: body))
  | blockClosure {params clause body : List Token} (h : Derives (list .round parameter) params)
      (hclause : Derives captures clause) (hbody : Derives block body) :
      Derives closure (.name "function" :: (params ++ (clause ++ body)))
  -- expr ("=>" expr)?
  | value {tokens : List Token} (h : Derives expr tokens) : Derives element tokens
  | pair {key tokens : List Token} (h : Derives expr key) (hvalue : Derives expr tokens) :
      Derives element (key ++ .mark .fatArrow :: tokens)
  -- ("?"? name)? $var
  | untyped (name : String) : Derives parameter [.variable name]
  | typed (type name : String) : Derives parameter [.name type, .variable name]
  | nullable (type name : String) :
      Derives parameter [.mark .question, .name type, .variable name]
  -- ("use" "(" captures ")")?
  | noCaptures : Derives captures []
  | capturing {tokens : List Token} (h : Derives (list .round capture) tokens) :
      Derives captures (.name "use" :: tokens)
  -- "&"? $var
  | byValue (name : String) : Derives capture [.variable name]
  | byReference (name : String) : Derives capture [.mark .ampersand, .variable name]
  -- "{" statement* "}"
  | braces {tokens : List Token} (h : Derives statements tokens) :
      Derives block (Token.enclosed .curly tokens)
  | done : Derives statements []
  | step {tokens others : List Token} (h : Derives statement tokens)
      (hothers : Derives statements others) : Derives statements (tokens ++ others)
  -- "return" expr? ";" | "if" "(" expr ")" block ("else" block)? | $var "=" expr ";" | expr ";"
  | leave : Derives statement [.name "return", .mark .semicolon]
  | give {tokens : List Token} (h : Derives expr tokens) :
      Derives statement (.name "return" :: (tokens ++ [.mark .semicolon]))
  | when {condition yes : List Token} (h : Derives expr condition) (hyes : Derives block yes) :
      Derives statement (.name "if" :: (Token.enclosed .round condition ++ yes))
  | choose {condition yes no : List Token} (h : Derives expr condition) (hyes : Derives block yes)
      (hno : Derives block no) :
      Derives statement
        (.name "if" :: (Token.enclosed .round condition ++ (yes ++ .name "else" :: no)))
  | assign {tokens : List Token} (target : String) (h : Derives expr tokens) :
      Derives statement (.variable target :: .mark .assign :: (tokens ++ [.mark .semicolon]))
  | expression {tokens : List Token} (h : Derives expr tokens) :
      Derives statement (tokens ++ [.mark .semicolon])
  -- (item ("," item)* ","?)?
  | noItems {item : Phrase} : Derives (items item) []
  | lastItem {item : Phrase} {tokens : List Token} (h : Derives item tokens) :
      Derives (items item) tokens
  | nextItem {item : Phrase} {tokens others : List Token} (h : Derives item tokens)
      (hothers : Derives (items item) others) :
      Derives (items item) (tokens ++ .mark .comma :: others)
  | brackets {item : Phrase} {tokens : List Token} (bracket : Bracket)
      (h : Derives (items item) tokens) :
      Derives (list bracket item) (Token.enclosed bracket tokens)

end Phrase

end FluentStyle
