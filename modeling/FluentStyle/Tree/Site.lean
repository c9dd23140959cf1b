import FluentStyle.Text.Split
import FluentStyle.Tree.Printer

/-!
# Sites

The places of a tree at which rules may change it: chains, closures, and lists of expressions, which
are the arrays without keys and the items of a fragment.
-/

namespace FluentStyle

/-- A part of a tree that rules apply to. -/
inductive Site where
  | chain (chain : Chain)
  | closure (closure : Closure)
  | list (items : List Expr)
deriving DecidableEq

namespace Site

/-!
# Sites and expressions
-/

def ofExpr? : Expr → Option Site
  | .chain c => some (.chain c)
  | .closure c => some (.closure c)
  | .array items => (ArrayItem.values? items).map .list
  | _ => none

def toExpr : Site → Expr
  | .chain c => .chain c
  | .closure c => .closure c
  | .list items => .array (items.map .value)

def items : Site → List Expr
  | .list items => items
  | site => [site.toExpr]

/-- The items of a fragment as a site: a single chain or closure is that, all else is a list. -/
def ofItems : List Expr → Site
  | [.chain c] => .chain c
  | [.closure c] => .closure c
  | items => .list items

theorem ofExpr?_eq_some {expr : Expr} {site : Site} :
    ofExpr? expr = some site ↔ expr = site.toExpr := by
  cases expr <;> cases site <;>
    simp [ofExpr?, toExpr, ArrayItem.values?_eq_some]

def sameKind : Site → Site → Bool
  | .chain _, .chain _ => true
  | .closure _, .closure _ => true
  | .list _, .list _ => true
  | _, _ => false

def calls : Site → List Call
  | .chain c => (Expr.chain c).calls
  | .closure c => (Expr.closure c).calls
  | .list items => Expr.callsAll items

/-- Changes every expression of a site from the inside out; a chain or closure that becomes another
expression leaves a list of it. -/
def map (f : Expr → Expr) : Site → Site
  | .list items => .list (Expr.mapAll f items)
  | .chain c => ofItems [(Expr.chain c).map f]
  | .closure c => ofItems [(Expr.closure c).map f]

def render : Site → String
  | .chain c => (Expr.chain c).render
  | .closure c => (Expr.closure c).render
  | .list items => Text.join ",\n" (items.map Expr.render)

end Site

end FluentStyle
