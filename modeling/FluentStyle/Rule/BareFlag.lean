import FluentStyle.Catalog.Conventions

/-!
# Flags

A call that switches something on needs no argument `true`.
-/

namespace FluentStyle

namespace Call

/-- Whether the call is one of the flags with the argument `true`, in whatever case. -/
def isTrueFlag (flags : List String) (call : Call) : Bool :=
  flags.contains call.name &&
    match call.args with
    | [.constant word] => word.toList.map Char.toLower = "true".toList
    | _ => false

def bared (flags : List String) (call : Call) : Call :=
  if call.isTrueFlag flags then ⟨call.name, []⟩ else call

end Call

namespace Chain

def bared? (style : Conventions) (flags : List String) (chain : Chain) : Option Chain :=
  if style.isDeclaration chain && chain.rest.any (·.isTrueFlag flags) then
    some { chain with rest := chain.rest.map (·.bared flags) }
  else none

end Chain

end FluentStyle
