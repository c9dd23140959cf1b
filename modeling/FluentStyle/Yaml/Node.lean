import FluentStyle.Text.CodeRanges
import FluentStyle.Text.Letter

/-!
# YAML documents

`Node` is a document as it is written, with aliases replaced by what they stand for.  A scalar keeps
its text and whether it was written plainly, because only a plain scalar can be a number, a truth
value or nothing.
-/

namespace FluentStyle.Yaml

inductive Node where
  | scalar (tag : Option String) (plain : Bool) (text : String)
  | sequence (tag : Option String) (items : List Node)
  | mapping (tag : Option String) (entries : List (Node × Node))
deriving Repr, Inhabited

/-!
# Equality
-/

namespace Node

mutual

def same : Node → Node → Bool
  | .scalar t p a, .scalar u q b => t = u && p = q && a = b
  | .sequence t as, .sequence u bs => t = u && sameAll as bs
  | .mapping t as, .mapping u bs => t = u && sameEntries as bs
  | _, _ => false

def sameAll : List Node → List Node → Bool
  | [], [] => true
  | a :: as, b :: bs => a.same b && sameAll as bs
  | _, _ => false

def sameEntries : List (Node × Node) → List (Node × Node) → Bool
  | [], [] => true
  | (k, a) :: as, (l, b) :: bs => k.same l && a.same b && sameEntries as bs
  | _, _ => false

end

mutual

theorem same_iff : (a b : Node) → (a.same b = true ↔ a = b)
  | .scalar t p a, b => by cases b <;> simp [same, and_assoc]
  | .sequence t as, b => by cases b <;> simp [same, sameAll_iff as]
  | .mapping t as, b => by cases b <;> simp [same, sameEntries_iff as]

theorem sameAll_iff : (as bs : List Node) → (sameAll as bs = true ↔ as = bs)
  | [], bs => by cases bs <;> simp [sameAll]
  | a :: as, bs => by cases bs <;> simp [sameAll, same_iff a, sameAll_iff as]

theorem sameEntries_iff : (as bs : List (Node × Node)) → (sameEntries as bs = true ↔ as = bs)
  | [], bs => by cases bs <;> simp [sameEntries]
  | (k, a) :: as, bs => by
      cases bs with
      | nil => simp [sameEntries]
      | cons entry bs =>
          rcases entry with ⟨l, b⟩
          simp [sameEntries, same_iff k, same_iff a, sameEntries_iff as]

end

end Node

instance : DecidableEq Node := fun a b => decidable_of_iff (a.same b = true) (Node.same_iff a b)

namespace Scalar

/-!
# Truth values and integers

A number has a sign, and digits in base ten or behind a prefix for base 16, 8 or 2.
-/

def isNull (text : String) : Bool :=
  ["", "~", "null", "Null", "NULL"].contains text

def bool? (text : String) : Option Bool :=
  if ["true", "True", "TRUE"].contains text then some true
  else if ["false", "False", "FALSE"].contains text then some false
  else none

def digit? (base : Nat) (c : Char) : Option Nat :=
  match Text.hexDigit? c with
  | some value => if value < base then some value else none
  | none => none

def digits? (base : Nat) : List Char → Option Nat
  | [] => none
  | chars =>
      chars.foldl (fun value c =>
        match value, digit? base c with
        | some value, some digit => some (base * value + digit)
        | _, _ => none) (some 0)

def splitSign : List Char → Option Bool × List Char
  | '-' :: rest => (some true, rest)
  | '+' :: rest => (some false, rest)
  | chars => (none, chars)

/-- A number may not start with a zero before other digits; such a scalar is a text. -/
def hasLeadingZero (chars : List Char) : Bool :=
  match (splitSign chars).2 with
  | '0' :: c :: rest => (c :: rest).all Text.isDigit
  | _ => false

def magnitude? : List Char → Option Nat
  | '0' :: 'x' :: rest => digits? 16 rest
  | '0' :: 'o' :: rest => digits? 8 rest
  | '0' :: 'b' :: rest => digits? 2 rest
  | chars => digits? 10 chars

def int? (text : String) : Option Int :=
  let chars := text.toList
  if hasLeadingZero chars then none
  else
    match splitSign chars with
    | (some true, rest) => (magnitude? rest).map fun n => -(n : Int)
    | (_, rest) => (magnitude? rest).map fun n => (n : Int)

def nat? (text : String) : Option Nat :=
  let chars := text.toList
  if hasLeadingZero chars then none
  else
    match splitSign chars with
    | (some true, _) => none
    | (_, rest) => magnitude? rest

/-!
# Numbers without an exact value
-/

def exponent? : List Char → Option Int
  | [] => some 0
  | e :: rest =>
      if e = 'e' ∨ e = 'E' then
        match splitSign rest with
        | (some true, rest) => (digits? 10 rest).map fun n => -(n : Int)
        | (_, rest) => (digits? 10 rest).map fun n => (n : Int)
      else none

/-- Whether `digits * 10 ^ exponent` is below the numbers that a double rounds to infinity. -/
def isFinite (digits : Nat) (exponent : Int) : Bool :=
  let order := (digits.repr.length : Int) + exponent
  if digits = 0 || order < 309 then true
  else if order > 309 then false
  else
    let bound := Nat.pow 2 1024 - Nat.pow 2 970
    if exponent ≥ 0 then digits * Nat.pow 10 exponent.toNat < bound
    else digits < bound * Nat.pow 10 (-exponent).toNat

/-- Whether a plain scalar stands for a number with a point, an exponent or an infinite value. -/
def isReal (text : String) : Bool :=
  let chars := text.toList
  if hasLeadingZero chars then false
  else if [".inf", ".Inf", ".INF", "+.inf", "+.Inf", "+.INF", "-.inf", "-.Inf", "-.INF",
      ".nan", ".NaN", ".NAN"].contains text then true
  else
    let rest := (splitSign chars).2
    let whole := rest.takeWhile Text.isDigit
    let afterWhole := rest.dropWhile Text.isDigit
    let (fraction, tail) := match afterWhole with
      | '.' :: rest => (rest.takeWhile Text.isDigit, rest.dropWhile Text.isDigit)
      | rest => ([], rest)
    if whole = [] ∧ fraction = [] then false
    else
      match exponent? tail, digits? 10 (whole ++ fraction) with
      | some exponent, some digits => isFinite digits (exponent - fraction.length)
      | _, _ => false

end Scalar

/-!
# What a plain scalar stands for

Integers count as such in a range, beyond which a number has no exact value; those that fit into 128
bits are told from longer ones.
-/

inductive Resolved where
  | null
  | bool (value : Bool)
  | int (value : Int)
  | real
  | text (value : String)
deriving DecidableEq, Repr

/-- The range of the integers that count as such; beyond it a number has no exact value. -/
def intRange (n : Int) : Bool :=
  -0x8000000000000000 ≤ n && n < UInt64.size

def wideRange (n : Int) : Bool :=
  -0x80000000000000000000000000000000 ≤ n && n < 0x100000000000000000000000000000000

def Resolved.ofPlain (text : String) : Resolved :=
  if Scalar.isNull text then .null
  else
    match Scalar.bool? text with
    | some value => .bool value
    | none =>
        match Scalar.int? text with
        | some value => if intRange value then .int value else .real
        | none => if Scalar.isReal text then .real else .text text

end FluentStyle.Yaml
