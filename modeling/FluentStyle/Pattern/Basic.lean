import FluentStyle.Pattern.Reader

/-!
# Patterns

A pattern is the text of a regular expression together with what it was read as.
-/

namespace FluentStyle

structure Pattern where
  source : String
  regex : Regex
  /-- The expression is what the text is read as. -/
  isParsed : Regex.parse? source = some regex

namespace Pattern

def parse? (source : String) : Option Pattern :=
  match h : Regex.parse? source with
  | some regex => some ⟨source, regex, h⟩
  | none => none

def isMatch (pattern : Pattern) (text : String) : Bool :=
  pattern.regex.isMatch text

/-- Two patterns are equal if their texts are. -/
theorem ext_source {p q : Pattern} (h : p.source = q.source) : p = q := by
  rcases p with ⟨source, regex, hp⟩
  rcases q with ⟨source', regex', hq⟩
  cases h
  cases hp.symm.trans hq
  rfl

instance : DecidableEq Pattern := fun p q =>
  decidable_of_iff (p.source = q.source) ⟨ext_source, fun h => h ▸ rfl⟩

end Pattern

end FluentStyle
