import FluentStyle.Proofs.Grammar.Rendering
import FluentStyle.Proofs.Grammar.Soundness

/-!
# Reading and printing

The fragments that are read from source texts are the readable ones, and each of them is read back
from its canonical text.
-/

namespace FluentStyle

namespace Fragment

theorem parse_render_iff {fragment : Fragment} :
    parse fragment.render = .ok fragment ↔ fragment.Readable :=
  ⟨readable_of_parse, parse_render⟩

/-- What a source text is read into is read back from its canonical text, which is therefore the
canonical text of what it is read into. -/
theorem render_round_trip {source : String} {fragment : Fragment}
    (h : parse source = .ok fragment) :
    parse fragment.render = .ok fragment ∧
      (parse fragment.render).map render = .ok fragment.render := by
  have hback := parse_render (readable_of_parse h)
  refine ⟨hback, ?_⟩
  rw [hback]
  rfl

/-- Signs that could fuse, an arrow function and a choice. -/
theorem render_round_trip_signs :
    let fragment : Fragment :=
      ⟨[.closure (.arrow [⟨none, "$a"⟩] (.elvis (.unary .negate (.unary .negate (.number "1.")))
        (.property (.variable "$a") "b"))), .array [.pair (.literal ⟨"'k'"⟩) (.constant "true")]],
        .semicolon⟩
    parse "fn($a)=>- -1.?:$a->b,['k'=>true];" = .ok fragment ∧
      parse fragment.render = .ok fragment ∧
        (parse fragment.render).map render = .ok fragment.render := by
  intro fragment
  have h : parse "fn($a)=>- -1.?:$a->b,['k'=>true];" = .ok fragment := by decide +kernel
  exact ⟨h, render_round_trip h⟩

end Fragment

end FluentStyle
