/-!
# Splitting, joining and replacing

Texts are handled as lists of characters.  A text is cut at every separator, pieces are joined
with a separator between them, and a phrase is replaced from left to right wherever it stands.
-/

namespace FluentStyle.Text

/-!
# Pieces and lines

There is always at least one piece.  A text is cut into lines after every line feed, and an empty
last line is left out.
-/

def splitOn (separator : Char) : List Char → List (List Char)
  | [] => [[]]
  | c :: rest =>
      if c = separator then [] :: splitOn separator rest
      else
        match splitOn separator rest with
        | [] => [[c]]
        | piece :: pieces => (c :: piece) :: pieces

theorem splitOn_ne_nil (separator : Char) (text : List Char) : splitOn separator text ≠ [] := by
  cases text with
  | nil => simp [splitOn]
  | cons c rest =>
      by_cases h : c = separator
      · simp [splitOn, h]
      · cases hs : splitOn separator rest <;> simp [splitOn, h, hs]

def join (separator : String) : List String → String
  | [] => ""
  | [text] => text
  | text :: rest => text ++ separator ++ join separator rest

/-- The lines of a text: it is cut after every line feed, and an empty last line is left out. -/
def lines (text : List Char) : List (List Char) :=
  match (splitOn '\n' text).reverse with
  | [] :: earlier => earlier.reverse
  | all => all.reverse

/-!
# Starts and ends
-/

def stripStart? : List Char → List Char → Option (List Char)
  | [], text => some text
  | _ :: _, [] => none
  | p :: phrase, c :: text => if p = c then stripStart? phrase text else none

theorem stripStart?_eq_some {phrase text rest : List Char} :
    stripStart? phrase text = some rest ↔ text = phrase ++ rest := by
  induction phrase generalizing text with
  | nil => simp [stripStart?, eq_comm]
  | cons p phrase ih =>
      cases text with
      | nil => simp [stripStart?]
      | cons c text =>
          by_cases h : p = c
          · simp [stripStart?, h, ih]
          · simp [stripStart?, h, Ne.symm h]

theorem length_le_of_stripStart? {phrase text rest : List Char}
    (h : stripStart? phrase text = some rest) : rest.length ≤ text.length := by
  rw [stripStart?_eq_some.1 h]
  simp

def startsWith (phrase text : List Char) : Bool :=
  (stripStart? phrase text).isSome

def stripEnd? (phrase text : List Char) : Option (List Char) :=
  (stripStart? phrase.reverse text.reverse).map List.reverse

theorem stripEnd?_eq_some {phrase text base : List Char} :
    stripEnd? phrase text = some base ↔ text = base ++ phrase := by
  unfold stripEnd?
  rw [Option.map_eq_some_iff]
  constructor
  · rintro ⟨rest, hrest, rfl⟩
    have htext := congrArg List.reverse (stripStart?_eq_some.mp hrest)
    rw [List.reverse_reverse, List.reverse_append, List.reverse_reverse] at htext
    exact htext
  · rintro rfl
    refine ⟨base.reverse, stripStart?_eq_some.mpr ?_, List.reverse_reverse base⟩
    rw [List.reverse_append]

def endsWith (phrase text : List Char) : Bool :=
  (stripEnd? phrase text).isSome

/-!
# Replacing a phrase
-/

/-- Replaces a phrase `p :: phrase` from left to right; found phrases do not overlap. -/
def replaceFrom (p : Char) (phrase replacement : List Char) : List Char → List Char
  | [] => []
  | c :: rest =>
      if p = c then
        match _found : stripStart? phrase rest with
        | some after => replacement ++ replaceFrom p phrase replacement after
        | none => c :: replaceFrom p phrase replacement rest
      else c :: replaceFrom p phrase replacement rest
termination_by text => text.length
decreasing_by
  · have := length_le_of_stripStart? _found
    simp only [List.length_cons]
    omega
  · simp
  · simp

/-- Replaces every occurrence of the phrase.  An empty phrase stands before every character and
at the end. -/
def replace (phrase replacement text : List Char) : List Char :=
  match phrase with
  | [] => text.foldr (fun c after => replacement ++ c :: after) replacement
  | p :: phrase => replaceFrom p phrase replacement text

def replaceIn (phrase replacement text : String) : String :=
  String.ofList (replace phrase.toList replacement.toList text.toList)

def trimEndWhile (test : Char → Bool) (text : List Char) : List Char :=
  (text.reverse.dropWhile test).reverse

end FluentStyle.Text
