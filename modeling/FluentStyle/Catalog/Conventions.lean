import FluentStyle.Catalog.Config
import FluentStyle.Tree.Traversal

/-!
# Conventions

The part of a configuration that all rules share: what a declaration is, how calls rank, and which
fields form groups.
-/

namespace FluentStyle

/-- What all rules of a catalog go by. -/
structure Conventions where
  constructors : List String
  order : List Category
  /-- The category of each listed call. -/
  categories : List (String × Category)
  exempt : List String
  groups : List Group

namespace Conventions

/-!
# Ranks of calls

The category of a call is the one that it is listed under, or else `other`, and its rank is the
place of its category in the order.  An exempt call keeps its place in a chain.
-/

def category (style : Conventions) (call : String) : Category :=
  (style.categories.lookup call).getD .other

def rank (style : Conventions) (category : Category) : Nat :=
  style.order.idxOf category

def callRank (style : Conventions) (call : Call) : Nat :=
  style.rank (style.category call.name)

def isExempt (style : Conventions) (call : String) : Bool :=
  style.exempt.contains call

def isDeclaration (style : Conventions) (chain : Chain) : Bool :=
  chain.isDeclaration style.constructors

end Conventions

namespace Config

/-!
# Conventions of a configuration
-/

def callTable (config : Config) : List (String × Category) :=
  Category.all.flatMap fun category =>
    ((config.calls category).getD []).map fun call => (call, category)

def conventions (config : Config) : Conventions where
  constructors := config.constructors
  order := config.order
  categories := config.callTable
  exempt := config.exempt
  groups := config.groups

end Config

end FluentStyle
