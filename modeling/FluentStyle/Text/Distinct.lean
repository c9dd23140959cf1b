/-!
# Sets of texts

A set of texts is shown as the list of its members in order.
-/

namespace FluentStyle.Text

/-- The texts in order, each once. -/
def distinct (texts : List String) : List String :=
  (texts.mergeSort fun a b => decide (a ≤ b)).eraseReps

end FluentStyle.Text
