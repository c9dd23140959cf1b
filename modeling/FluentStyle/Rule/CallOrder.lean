import FluentStyle.Catalog.Conventions

/-!
# The order of calls

The calls of a declaration after its constructor are put into the order of their categories.  Calls
of one category keep their order, and exempt calls keep their place.
-/

namespace FluentStyle

namespace Conventions

def ranked (style : Conventions) (calls : List Call) : List Call :=
  (calls.filter fun call => !style.isExempt call.name).mergeSort fun a b =>
    decide (style.callRank a ≤ style.callRank b)

/-- Puts the given calls, one after another, in the place of the calls that are not exempt. -/
def place (style : Conventions) : List Call → List Call → List Call
  | [], _ => []
  | call :: rest, ranked =>
      if style.isExempt call.name then call :: style.place rest ranked
      else
        match ranked with
        | [] => call :: style.place rest []
        | next :: others => next :: style.place rest others

def ordered (style : Conventions) (calls : List Call) : List Call :=
  style.place calls (style.ranked calls)

end Conventions

namespace Chain

def reordered? (style : Conventions) (chain : Chain) : Option Chain :=
  if style.isDeclaration chain then
    let rest := style.ordered chain.rest
    if rest = chain.rest then none else some { chain with rest }
  else none

end Chain

end FluentStyle
