import FluentStyle.Yaml.Node

/-!
# Decimal numerals

A whole number is written in decimal, with a minus sign if it is negative.  Such a numeral has no
leading zero and no prefix of another base, so as a plain scalar it stands for the number it was
written for, and for nothing else.
-/

namespace FluentStyle.Yaml

namespace Scalar

/-!
# Digits

The numeral of a positive number does not start with a zero.
-/

theorem digit?_digitChar {d : Nat} (h : d < 10) : digit? 10 d.digitChar = some d := by
  have hall : ∀ d < 10, digit? 10 (Nat.digitChar d) = some d := by decide
  exact hall d h

theorem digits?_concat {chars : List Char} {n d : Nat} (h : digits? 10 chars = some n)
    (hd : d < 10) : digits? 10 (chars ++ [d.digitChar]) = some (10 * n + d) := by
  cases chars with
  | nil => cases h
  | cons c rest =>
      rw [List.cons_append, digits?, ← List.cons_append, List.foldl_append]
      rw [digits?] at h
      · rw [h, List.foldl_cons, List.foldl_nil, digit?_digitChar hd]
      · exact List.cons_ne_nil c rest
      · exact List.cons_ne_nil c _

theorem digits?_toDigits (n : Nat) : digits? 10 (Nat.toDigits 10 n) = some n := by
  induction n using Nat.strongRecOn with
  | ind n ih =>
      by_cases hsmall : n < 10
      · rw [Nat.toDigits_of_lt_base hsmall]
        simp only [digits?, List.foldl_cons, List.foldl_nil, digit?_digitChar hsmall]
        rw [Nat.mul_zero, Nat.zero_add]
      · have hlarge : 10 ≤ n := Nat.le_of_not_lt hsmall
        rw [Nat.toDigits_of_base_le (by decide) hlarge,
          digits?_concat (ih (n / 10) (by omega)) (Nat.mod_lt n (by decide)),
          Nat.div_add_mod]

theorem toDigits_of_pos {n : Nat} (h : 0 < n) :
    ∃ c rest, Nat.toDigits 10 n = c :: rest ∧ c ≠ '0' := by
  induction n using Nat.strongRecOn with
  | ind n ih =>
      by_cases hsmall : n < 10
      · refine ⟨n.digitChar, [], Nat.toDigits_of_lt_base hsmall, ?_⟩
        intro hzero
        exact Nat.ne_of_gt h (Nat.digitChar_eq_zero.mp hzero)
      · rcases ih (n / 10) (by omega) (by omega) with ⟨c, rest, hdigits, hc⟩
        refine ⟨c, rest ++ [(n % 10).digitChar], ?_, hc⟩
        rw [Nat.toDigits_of_base_le (by decide) (Nat.le_of_not_lt hsmall), hdigits,
          List.cons_append]

/-!
# Magnitudes
-/

theorem magnitude?_toDigits (n : Nat) : magnitude? (Nat.toDigits 10 n) = some n := by
  have hread := digits?_toDigits n
  rcases Nat.eq_zero_or_pos n with rfl | hpos
  · rfl
  · rcases toDigits_of_pos hpos with ⟨c, rest, hdigits, hc⟩
    rw [hdigits] at hread ⊢
    rw [magnitude?]
    · exact hread
    all_goals
      rintro others hcons
      exact hc (List.cons.inj hcons).1

theorem splitSign_toDigits (n : Nat) :
    splitSign (Nat.toDigits 10 n) = (none, Nat.toDigits 10 n) := by
  have hdigit : ∀ c ∈ Nat.toDigits 10 n, c.isDigit = true := fun c hc =>
    Nat.isDigit_of_mem_toDigits (by decide) (by decide) hc
  unfold splitSign
  split
  · rename_i rest hdigits
    rw [hdigits] at hdigit
    exact absurd (hdigit '-' List.mem_cons_self) (by decide)
  · rename_i rest hdigits
    rw [hdigits] at hdigit
    exact absurd (hdigit '+' List.mem_cons_self) (by decide)
  · rfl

theorem splitSign_minus (chars : List Char) : splitSign ('-' :: chars) = (some true, chars) :=
  rfl

theorem hasLeadingZero_of_splitSign {chars : List Char} {sign : Option Bool} {n : Nat}
    (h : splitSign chars = (sign, Nat.toDigits 10 n)) : hasLeadingZero chars = false := by
  rw [hasLeadingZero, h]
  rcases Nat.eq_zero_or_pos n with rfl | hpos
  · rfl
  · rcases toDigits_of_pos hpos with ⟨c, rest, hdigits, hc⟩
    simp only [hdigits]
    split
    · rename_i hcons
      exact absurd (List.cons.inj hcons).1 hc
    · rfl

/-!
# Numerals

The characters of a numeral are a minus sign, if the number is negative, and the digits of its
magnitude.  It is read as the number it was written for, and it is none of the words that start
otherwise.
-/

theorem toList_repr (n : Int) :
    n.repr.toList = (if n < 0 then ['-'] else []) ++ Nat.toDigits 10 n.natAbs := by
  rw [Int.repr_eq_if]
  by_cases hneg : n < 0
  · rw [if_neg (by omega), if_pos hneg, String.toList_append, Nat.toList_repr]
    have habs : (-n).toNat = n.natAbs := by omega
    rw [habs]
    rfl
  · rw [if_pos (by omega), if_neg hneg, Nat.toList_repr]
    have habs : n.toNat = n.natAbs := by omega
    rw [habs]
    rfl

theorem splitSign_repr (n : Int) :
    splitSign n.repr.toList = (if n < 0 then some true else none, Nat.toDigits 10 n.natAbs) := by
  rw [toList_repr]
  by_cases hneg : n < 0
  · rw [if_pos hneg, if_pos hneg]
    exact splitSign_minus _
  · rw [if_neg hneg, if_neg hneg]
    exact splitSign_toDigits _

theorem int?_repr (n : Int) : int? n.repr = some n := by
  have hsign := splitSign_repr n
  rw [int?]
  simp only [hasLeadingZero_of_splitSign hsign, Bool.false_eq_true, if_false, hsign]
  by_cases hneg : n < 0
  · rw [if_pos hneg]
    simp only [magnitude?_toDigits]
    show some (-(n.natAbs : Int)) = some n
    exact congrArg some (by omega)
  · rw [if_neg hneg]
    simp only [magnitude?_toDigits]
    show some (n.natAbs : Int) = some n
    exact congrArg some (by omega)

theorem nat?_repr (n : Nat) : nat? (n : Int).repr = some n := by
  have hsign := splitSign_repr n
  rw [nat?]
  simp only [hasLeadingZero_of_splitSign hsign, Bool.false_eq_true, if_false, hsign]
  rw [if_neg (by omega)]
  exact magnitude?_toDigits n

theorem head_repr (n : Int) :
    ∃ c rest, n.repr.toList = c :: rest ∧ (c = '-' ∨ c.isDigit = true) := by
  rw [toList_repr]
  by_cases hneg : n < 0
  · rw [if_pos hneg]
    exact ⟨'-', _, rfl, Or.inl rfl⟩
  · rw [if_neg hneg, List.nil_append]
    cases hdigits : Nat.toDigits 10 n.natAbs with
    | nil => exact absurd hdigits Nat.toDigits_ne_nil
    | cons c rest =>
        have hmem : c ∈ Nat.toDigits 10 n.natAbs := by
          rw [hdigits]
          exact List.mem_cons_self
        exact ⟨c, rest, rfl, Or.inr (Nat.isDigit_of_mem_toDigits (by decide) (by decide) hmem)⟩

theorem contains_repr {words : List String}
    (h : words.all (fun word => word.toList.head?.all fun c => c ≠ '-' && !c.isDigit) = true)
    (n : Int) : words.contains n.repr = false := by
  rcases head_repr n with ⟨c, rest, hlist, hc⟩
  rw [List.contains_eq_any_beq, List.any_eq_false]
  intro word hword hsame
  have hhead := List.all_eq_true.mp h word hword
  rw [← eq_of_beq hsame, hlist] at hhead
  rcases hc with rfl | hdigit
  · cases hhead
  · simp [hdigit] at hhead

theorem isNull_repr (n : Int) : isNull n.repr = false :=
  contains_repr (rfl) n

theorem bool?_repr (n : Int) : bool? n.repr = none := by
  rw [bool?, contains_repr (rfl) n, contains_repr (rfl) n]
  rfl

end Scalar

/-- Where any kind of value may stand, a numeral stands for its number, as long as that is in the
range of exact integers. -/
theorem Resolved.ofPlain_repr {n : Int} (h : intRange n = true) :
    Resolved.ofPlain n.repr = .int n := by
  simp only [Resolved.ofPlain, Scalar.isNull_repr, Scalar.bool?_repr, Scalar.int?_repr, h,
    Bool.false_eq_true, if_false, if_true]

end FluentStyle.Yaml
