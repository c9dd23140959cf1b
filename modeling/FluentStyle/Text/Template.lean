import FluentStyle.Text.Split

/-!
# Message templates

A template is a text with gaps such as `\x7b\x7b $name \x7d\x7d`.  A gap is filled with what its
name stands for; one whose name stands for nothing stays as it is.
-/

namespace FluentStyle.Text

def gap (name : String) : String :=
  "\x7b\x7b $" ++ name ++ " \x7d\x7d"

/-- Fills the gaps of a template, name by name in the given order.  A value may bring in gaps for
names that come after its own. -/
def fill (template : String) (bindings : List (String × String)) : String :=
  bindings.foldl (fun text (name, value) => replaceIn (gap name) value text) template

end FluentStyle.Text
