import FluentStyle.Text.Position
import FluentStyle.Text.Split
import Mathlib.Data.List.Induction
import Mathlib.Data.Prod.Lex

/-!
# Character boundaries

A text is cut at a boundary: at a byte between two characters or at an end of the text.  Boundaries
and places, which are lines with columns, stand for each other: a place leads back to the boundary
that it was made from, and a later boundary has a later place.
-/

namespace FluentStyle

namespace Text

/-- The position lies between two characters of the text or at one of its ends. -/
def IsBoundary (text : List Char) (position : Nat) : Prop :=
  ∃ front back : List Char, text = front ++ back ∧ byteLength front = position

theorem isBoundary_toList_iff {text : String} {position : Nat} :
    IsBoundary text.toList position ↔ (⟨position⟩ : String.Pos.Raw).IsValid text := by
  rw [String.Pos.Raw.isValid_iff_exists_append]
  constructor
  · rintro ⟨front, back, htext, rfl⟩
    refine ⟨String.ofList front, String.ofList back, ?_, ?_⟩
    · rw [← String.ofList_append, ← htext, String.ofList_toList]
    · rw [String.Pos.Raw.ext_iff]
      exact (utf8ByteSize_ofList front).symm
  · rintro ⟨front, back, rfl, hposition⟩
    refine ⟨front.toList, back.toList, String.toList_append, ?_⟩
    rw [byteLength_toList]
    exact (congrArg String.Pos.Raw.byteIdx hposition).symm

/-!
# Cutting
-/

/-- The text before a byte and the text from there on.  There is neither for a byte inside a
character or behind the text. -/
def cut? (position : Nat) : List Char → Option (List Char × List Char)
  | [] => if position = 0 then some ([], []) else none
  | c :: rest =>
      if position = 0 then some ([], c :: rest)
      else if position < c.utf8Size then none
      else (cut? (position - c.utf8Size) rest).map fun (front, back) => (c :: front, back)

def slice? (first last : Nat) (text : List Char) : Option (List Char) :=
  (cut? last text).bind fun (front, _) => (cut? first front).map (·.2)

theorem cut?_append (front back : List Char) :
    cut? (byteLength front) (front ++ back) = some (front, back) := by
  induction front with
  | nil => cases back <;> rfl
  | cons c front ih =>
      have hsize := c.utf8Size_pos
      rw [byteLength_cons, List.cons_append, cut?, if_neg (by omega), if_neg (by omega),
        Nat.add_sub_cancel_left, ih]
      rfl

theorem eq_append_of_cut? {position : Nat} {text front back : List Char}
    (h : cut? position text = some (front, back)) :
    text = front ++ back ∧ byteLength front = position := by
  fun_induction cut? position text generalizing front back with
  | case1 | case3 =>
      cases h
      exact ⟨rfl, rfl⟩
  | case2 | case4 => cases h
  | case5 position c rest hpositive hsize ih =>
      rcases Option.map_eq_some_iff.mp h with ⟨⟨front', back'⟩, hcut, heq⟩
      cases heq
      rcases ih hcut with ⟨rfl, hlength⟩
      refine ⟨rfl, ?_⟩
      rw [byteLength_cons]
      omega

theorem cut?_eq_some_iff {position : Nat} {text front back : List Char} :
    cut? position text = some (front, back) ↔
      text = front ++ back ∧ byteLength front = position := by
  constructor
  · exact eq_append_of_cut?
  · rintro ⟨rfl, rfl⟩
    exact cut?_append front back

theorem isSome_cut?_iff {position : Nat} {text : List Char} :
    (cut? position text).isSome = true ↔ IsBoundary text position := by
  simp only [Option.isSome_iff_exists, Prod.exists, cut?_eq_some_iff, IsBoundary]

instance (text : List Char) (position : Nat) : Decidable (IsBoundary text position) :=
  decidable_of_iff _ isSome_cut?_iff

theorem before_append (front back : List Char) :
    before (byteLength front) (front ++ back) = front := by
  induction front with
  | nil => cases back <;> rfl
  | cons c front ih =>
      have hsize := c.utf8Size_pos
      rw [byteLength_cons, List.cons_append, before, if_neg (by omega), Nat.add_sub_cancel_left, ih]

theorem after_append (front back : List Char) :
    after (byteLength front) (front ++ back) = back := by
  have htext := before_append_after (byteLength front) (front ++ back)
  rw [before_append] at htext
  exact List.append_cancel_left htext

theorem slice?_append (front middle back : List Char) :
    slice? (byteLength front) (byteLength (front ++ middle)) (front ++ middle ++ back) =
      some middle := by
  simp only [slice?, cut?_append, Option.bind_some, Option.map_some]

theorem IsBoundary.le {text : List Char} {position : Nat} (h : IsBoundary text position) :
    position ≤ byteLength text := by
  rcases h with ⟨front, back, rfl, rfl⟩
  rw [byteLength_append]
  exact Nat.le_add_right _ _

theorem isBoundary_zero (text : List Char) : IsBoundary text 0 :=
  ⟨[], text, rfl, rfl⟩

theorem isBoundary_byteLength (text : List Char) : IsBoundary text (byteLength text) :=
  ⟨text, [], (List.append_nil text).symm, rfl⟩

/-!
# Places in order

More characters lead to a later place.
-/

theorem lineColumnAfter_concat (front : List Char) (c : Char) :
    lineColumnAfter (front ++ [c]) =
      if c = '\n' then ((lineColumnAfter front).1 + 1, 1)
      else ((lineColumnAfter front).1, (lineColumnAfter front).2 + 1) := by
  by_cases h : c = '\n' <;> simp [lineColumnAfter, h]

theorem lineColumnAfter_lt (front : List Char) {more : List Char} (h : more ≠ []) :
    toLex (lineColumnAfter front) < toLex (lineColumnAfter (front ++ more)) := by
  have hstep : ∀ (front : List Char) (c : Char),
      toLex (lineColumnAfter front) < toLex (lineColumnAfter (front ++ [c])) := by
    intro front c
    rw [lineColumnAfter_concat, Prod.Lex.toLex_lt_toLex]
    split
    · exact Or.inl (Nat.lt_succ_self _)
    · exact Or.inr ⟨rfl, Nat.lt_succ_self _⟩
  -- One character at a time: the place of each front of the text is passed through.
  induction more generalizing front with
  | nil => exact absurd rfl h
  | cons c more ih =>
      rw [List.append_cons]
      cases more with
      | nil =>
          rw [List.append_nil]
          exact hstep front c
      | cons d more => exact (hstep front c).trans (ih (front ++ [c]) (List.cons_ne_nil d more))

/-- A later boundary has a later place. -/
theorem lineColumn_lt {text : List Char} {first last : Nat} (hfirst : IsBoundary text first)
    (hlast : IsBoundary text last) (h : first < last) :
    toLex (lineColumn text first) < toLex (lineColumn text last) := by
  rcases hfirst with ⟨front, back, rfl, rfl⟩
  rcases hlast with ⟨longer, rest, htext, rfl⟩
  rcases List.append_eq_append_iff.mp htext with ⟨more, rfl, -⟩ | ⟨more, rfl, -⟩
  · have hmore : more ≠ [] := by
      rintro rfl
      simp at h
    rw [lineColumn, lineColumn, before_append, htext, before_append]
    exact lineColumnAfter_lt front hmore
  · rw [byteLength_append] at h
    omega

/-!
# From places back to bytes

A character in front moves a place to the next line, or along the first line; so places other than
the start are moved by a character in front of the text.
-/

/-- The byte to which a line and a column lead, both counted from 0: past the lines before, each
with its line feed, and past the characters of the line before the column.  A column may stand
behind the last character of its line. -/
def offsetIn? : List (List Char) → Nat → Nat → Option Nat
  | [], _, _ => none
  | line :: _, 0, column =>
      if column ≤ line.length then some (byteLength (line.take column)) else none
  | line :: lines, passed + 1, column =>
      (offsetIn? lines passed column).map (byteLength line + 1 + ·)

def offset? (text : List Char) : Nat × Nat → Option Nat
  | (line + 1, column + 1) => offsetIn? (splitOn '\n' text) line column
  | _ => none

theorem lineColumnAfter_cons (c : Char) (front : List Char) :
    lineColumnAfter (c :: front) =
      if c = '\n' then ((lineColumnAfter front).1 + 1, (lineColumnAfter front).2)
      else if (lineColumnAfter front).1 = 1 then (1, (lineColumnAfter front).2 + 1)
      else lineColumnAfter front := by
  induction front using List.reverseRecOn with
  | nil => by_cases h : c = '\n' <;> simp [lineColumnAfter, h]
  | append_singleton front d ih =>
      have hfront : (lineColumnAfter front).1 ≠ 0 := Nat.succ_ne_zero _
      rw [← List.cons_append, lineColumnAfter_concat, lineColumnAfter_concat, ih]
      by_cases hc : c = '\n' <;> by_cases hd : d = '\n' <;>
        by_cases hfirst : (lineColumnAfter front).1 = 1 <;> simp [hc, hd, hfirst, hfront]

theorem lineColumnAfter_line_feed_iff (front : List Char) (line column : Nat) :
    lineColumnAfter ('\n' :: front) = (line + 1, column) ↔
      lineColumnAfter front = (line, column) := by
  rw [lineColumnAfter_cons, if_pos rfl, Prod.ext_iff, Prod.ext_iff]
  exact and_congr_left fun _ => Nat.add_right_cancel_iff

theorem lineColumnAfter_cons_iff {c : Char} (h : c ≠ '\n') (front : List Char) (line column : Nat) :
    lineColumnAfter (c :: front) = (line + 1, column + if line = 0 then 1 else 0) ↔
      lineColumnAfter front = (line + 1, column) := by
  rw [lineColumnAfter_cons, if_neg h]
  rcases lineColumnAfter front with ⟨row, place⟩
  by_cases hline : line = 0 <;> by_cases hrow : row = 1 <;> simp [hline, hrow]

theorem offsetIn?_line_feed (text : List Char) (line column : Nat) :
    offsetIn? (splitOn '\n' ('\n' :: text)) (line + 1) column =
      (offsetIn? (splitOn '\n' text) line column).map (Char.utf8Size '\n' + ·) := by
  rw [splitOn, if_pos rfl, offsetIn?, byteLength_nil, Nat.zero_add]
  rfl

theorem offsetIn?_cons {c : Char} (h : c ≠ '\n') (text : List Char) (line column : Nat) :
    offsetIn? (splitOn '\n' (c :: text)) line (column + if line = 0 then 1 else 0) =
      (offsetIn? (splitOn '\n' text) line column).map (c.utf8Size + ·) := by
  rcases List.exists_cons_of_ne_nil (splitOn_ne_nil '\n' text) with ⟨first, lines, hlines⟩
  rw [splitOn, if_neg h, hlines]
  cases line with
  | zero => by_cases hcolumn : column ≤ first.length <;> simp [offsetIn?, hcolumn]
  | succ line =>
      have hoffset : ∀ offset : Nat, c.utf8Size + byteLength first + 1 + offset =
          c.utf8Size + (byteLength first + 1 + offset) := by
        intro offset
        omega
      simp only [offsetIn?, byteLength_cons, Option.map_map, Function.comp_def, hoffset,
        Nat.succ_ne_zero, if_false, Nat.add_zero]

/-- The place stands behind the first characters of the text, which take so many bytes. -/
def StandsAt (text : List Char) (place : Nat × Nat) (position : Nat) : Prop :=
  ∃ front back : List Char, text = front ++ back ∧ byteLength front = position ∧
    lineColumnAfter front = place

theorem standsAt_iff {text : List Char} {place : Nat × Nat} {position : Nat} :
    StandsAt text place position ↔ IsBoundary text position ∧ lineColumn text position = place := by
  constructor
  · rintro ⟨front, back, rfl, rfl, hplace⟩
    rw [lineColumn, before_append]
    exact ⟨⟨front, back, rfl, rfl⟩, hplace⟩
  · rintro ⟨⟨front, back, rfl, rfl⟩, hplace⟩
    rw [lineColumn, before_append] at hplace
    exact ⟨front, back, rfl, rfl, hplace⟩

theorem standsAt_start_iff {text : List Char} {position : Nat} :
    StandsAt text (1, 1) position ↔ position = 0 := by
  constructor
  · rintro ⟨front, back, -, rfl, hplace⟩
    cases front with
    | nil => rfl
    | cons c front =>
        have hlater := lineColumnAfter_lt [] (List.cons_ne_nil c front)
        rw [List.nil_append, hplace] at hlater
        exact absurd hlater (lt_irrefl _)
  · rintro rfl
    exact ⟨[], text, rfl, rfl, rfl⟩

theorem standsAt_nil_iff {place : Nat × Nat} {position : Nat} :
    StandsAt [] place position ↔ position = 0 ∧ place = (1, 1) := by
  constructor
  · rintro ⟨front, back, htext, rfl, rfl⟩
    rcases List.append_eq_nil_iff.mp htext.symm with ⟨rfl, rfl⟩
    exact ⟨rfl, rfl⟩
  · rintro ⟨rfl, rfl⟩
    exact ⟨[], [], rfl, rfl, rfl⟩

theorem standsAt_cons_iff {c : Char} {text : List Char} {place moved : Nat × Nat} {position : Nat}
    (hmoved : ∀ front : List Char, lineColumnAfter (c :: front) = moved ↔
      lineColumnAfter front = place) (hstart : moved ≠ (1, 1)) :
    StandsAt (c :: text) moved position ↔
      ∃ offset : Nat, StandsAt text place offset ∧ c.utf8Size + offset = position := by
  constructor
  · rintro ⟨front, back, htext, rfl, hplace⟩
    rcases List.cons_eq_append_iff.mp htext with ⟨rfl, -⟩ | ⟨front, rfl, rfl⟩
    · exact absurd hplace.symm hstart
    · exact ⟨byteLength front, ⟨front, back, rfl, rfl, (hmoved front).mp hplace⟩, rfl⟩
  · rintro ⟨offset, ⟨front, back, rfl, rfl, hplace⟩, rfl⟩
    exact ⟨c :: front, back, rfl, rfl, (hmoved front).mpr hplace⟩

theorem offsetIn?_eq_some_iff {text : List Char} {line column position : Nat} :
    offsetIn? (splitOn '\n' text) line column = some position ↔
      StandsAt text (line + 1, column + 1) position := by
  induction text generalizing line column position with
  | nil =>
      rw [standsAt_nil_iff]
      cases line <;> cases column <;> simp [splitOn, offsetIn?, eq_comm]
  | cons c text ih =>
      -- The start of the text is no place that its first character moves.
      by_cases hstart : line = 0 ∧ column = 0
      · rcases hstart with ⟨rfl, rfl⟩
        rcases List.exists_cons_of_ne_nil (splitOn_ne_nil '\n' (c :: text)) with
          ⟨first, lines, hlines⟩
        rw [hlines, standsAt_start_iff]
        simp [offsetIn?, eq_comm]
      · have hne : (line + 1, column + 1) ≠ (1, 1) := by simpa using hstart
        by_cases hc : c = '\n'
        · subst hc
          cases line with
          | zero =>
              have hcolumn : ¬ column ≤ 0 := fun hle => hstart ⟨rfl, Nat.le_zero.mp hle⟩
              rw [splitOn, if_pos rfl, offsetIn?, List.length_nil, if_neg hcolumn,
                standsAt_cons_iff (fun front => lineColumnAfter_line_feed_iff front _ _) hne]
              simp [StandsAt, lineColumnAfter]
          | succ line =>
              rw [standsAt_cons_iff (fun front => lineColumnAfter_line_feed_iff front _ _) hne,
                offsetIn?_line_feed, Option.map_eq_some_iff]
              simp only [ih]
        · obtain ⟨passed, rfl⟩ : ∃ passed : Nat, column = passed + if line = 0 then 1 else 0 := by
            by_cases hline : line = 0
            · exact ⟨column - 1, by rw [if_pos hline]; omega⟩
            · exact ⟨column, by rw [if_neg hline]; rfl⟩
          rw [offsetIn?_cons hc, Option.map_eq_some_iff]
          rw [Nat.add_right_comm] at hne ⊢
          rw [standsAt_cons_iff (fun front => lineColumnAfter_cons_iff hc front _ _) hne]
          simp only [ih]

/-- A place leads back to the boundary that has it. -/
theorem offset?_eq_some_iff {text : List Char} {place : Nat × Nat} {position : Nat} :
    offset? text place = some position ↔
      IsBoundary text position ∧ lineColumn text position = place := by
  rw [← standsAt_iff]
  rcases place with ⟨line, column⟩
  cases line with
  | zero => simp [offset?, StandsAt, lineColumnAfter]
  | succ line =>
      cases column with
      | zero => simp [offset?, StandsAt, lineColumnAfter]
      | succ column => exact offsetIn?_eq_some_iff

end Text

end FluentStyle
