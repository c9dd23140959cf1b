import FluentStyle.Text.Split

/-!
# Wildcards

Patterns for names and paths: `?` stands for any character, `*` for any characters, `[...]` and
`[!...]` for one of a set or one outside it, and `**` between slashes for any number of directories.
Slashes are ordinary characters to all but the last.
-/

namespace FluentStyle

/-!
# Matching

A pattern stands for a whole name.  Of a text, `*` leaves some end of it, and `**` one that starts
after a slash, or nothing.
-/

inductive WildcardPart where
  | char (c : Char)
  | anyChar
  | anyText
  | anyFolders
  | oneOf (ranges : List (Char × Char))
  | noneOf (ranges : List (Char × Char))
deriving DecidableEq, Repr

structure Wildcard where
  parts : List WildcardPart
deriving DecidableEq, Repr

namespace Wildcard

def inRanges (ranges : List (Char × Char)) (c : Char) : Bool :=
  ranges.any fun (first, last) => first ≤ c && c ≤ last

/-- The ends of a text, from all of it to nothing. -/
def ends : List Char → List (List Char)
  | [] => [[]]
  | c :: rest => (c :: rest) :: ends rest

def endsAfterSlash : List Char → List (List Char)
  | [] => [[]]
  | c :: rest => if c = '/' then rest :: endsAfterSlash rest else endsAfterSlash rest

def matchParts : List WildcardPart → List Char → Bool
  | [], text => text.isEmpty
  | .anyText :: rest, text => (ends text).any (matchParts rest)
  | .anyFolders :: rest, text => matchParts rest text || (endsAfterSlash text).any (matchParts rest)
  | .char _ :: _, [] | .anyChar :: _, [] | .oneOf _ :: _, [] | .noneOf _ :: _, [] => false
  | .char c :: rest, d :: text => c = d && matchParts rest text
  | .anyChar :: rest, _ :: text => matchParts rest text
  | .oneOf ranges :: rest, c :: text => inRanges ranges c && matchParts rest text
  | .noneOf ranges :: rest, c :: text => !inRanges ranges c && matchParts rest text

def isMatch (pattern : Wildcard) (name : String) : Bool :=
  matchParts pattern.parts name.toList

/-!
# Reading a pattern

Between brackets, a hyphen between two characters makes a range.
-/

def splitAtBracket : List Char → Option (List Char × List Char)
  | [] => none
  | ']' :: rest => some ([], rest)
  | c :: rest => (splitAtBracket rest).map fun (before, after) => (c :: before, after)

theorem length_of_splitAtBracket {text before after : List Char}
    (h : splitAtBracket text = some (before, after)) : after.length < text.length := by
  induction text generalizing before with
  | nil => simp [splitAtBracket] at h
  | cons c rest ih =>
      rw [splitAtBracket.eq_def] at h
      split at h
      · simp at h
      · rename_i heq
        simp only [List.cons.injEq] at heq
        simp only [Option.some.injEq, Prod.mk.injEq] at h
        simp [heq, h]
      · rename_i heq
        simp only [List.cons.injEq] at heq
        rcases heq with ⟨rfl, rfl⟩
        simp only [Option.map_eq_some_iff, Prod.mk.injEq] at h
        rcases h with ⟨⟨b, a⟩, hb, rfl, rfl⟩
        have : a.length < rest.length := ih hb
        simp only [List.length_cons]
        omega

def ranges : List Char → List (Char × Char)
  | first :: '-' :: last :: rest => (first, last) :: ranges rest
  | c :: rest => (c, c) :: ranges rest
  | [] => []

/-- Reads the parts of a pattern.  Two stars have to be all there is between slashes, and brackets
have to be closed; the first character between them may be a bracket. -/
def readParts? (atStart : Bool) (text : List Char) : Option (List WildcardPart) :=
  match text with
  | [] => some []
  | '?' :: rest => (readParts? false rest).map (.anyChar :: ·)
  | '*' :: '*' :: rest =>
      if atStart then
        match rest with
        | [] => some [.anyFolders]
        | '/' :: more => (readParts? true more).map (.anyFolders :: ·)
        | _ => none
      else none
  | '*' :: rest => (readParts? false rest).map (.anyText :: ·)
  | '[' :: '!' :: first :: rest =>
      match _split : splitAtBracket rest with
      | some (others, more) => (readParts? false more).map (.noneOf (ranges (first :: others)) :: ·)
      | none => none
  | '[' :: first :: rest =>
      if first = '!' then none
      else
        match _split : splitAtBracket rest with
        | some (others, more) =>
            (readParts? false more).map (.oneOf (ranges (first :: others)) :: ·)
        | none => none
  | '[' :: _ => none
  | c :: rest => (readParts? (c = '/') rest).map (.char c :: ·)
termination_by text.length
decreasing_by
  all_goals simp only [List.length_cons]
  all_goals try omega
  · have := length_of_splitAtBracket _split
    omega
  · have := length_of_splitAtBracket _split
    omega

def parse? (text : String) : Option Wildcard :=
  (readParts? true text.toList).map Wildcard.mk

end Wildcard

end FluentStyle
