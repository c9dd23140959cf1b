import FluentStyle.Pattern.CharClass

/-!
# Regular expressions

A regular expression and the texts in which it has a match.  Only whether there is a match counts,
so repetition is neither greedy nor lazy: `Regex.reach` follows all matches at once, from the set of
places where they may start to the set of places where they may end.
-/

namespace FluentStyle

/-- A condition on a place of a text. -/
inductive Assertion where
  | textStart
  | textEnd
  /-- After a line feed, or also around a carriage return. -/
  | lineStart (carriageReturns : Bool)
  | lineEnd (carriageReturns : Bool)
  /-- Where a word starts or ends. -/
  | wordBoundary (unicode : Bool)
  | notWordBoundary (unicode : Bool)
  | wordStart (unicode : Bool)
  | wordEnd (unicode : Bool)
  | noWordBefore (unicode : Bool)
  | noWordAfter (unicode : Bool)
deriving DecidableEq, Repr

inductive Regex where
  | empty
  | oneOf (charClass : CharClass)
  | assertion (assertion : Assertion)
  | seq (a b : Regex)
  | alt (a b : Regex)
  /-- At least `least` times, and at most `most` times if given. -/
  | repeat (a : Regex) (least : Nat) (most : Option Nat)
deriving Repr

namespace Assertion

def wordAt (unicode : Bool) (c : Option Char) : Bool :=
  match c with
  | none => false
  | some c => (CharClass.word unicode).contains c

def holds (before after : Option Char) : Assertion → Bool
  | .textStart => before.isNone
  | .textEnd => after.isNone
  | .lineStart false => before.isNone || before = some '\n'
  | .lineStart true =>
      before.isNone || before = some '\n' || (before = some '\r' && after ≠ some '\n')
  | .lineEnd false => after.isNone || after = some '\n'
  | .lineEnd true =>
      after.isNone || after = some '\r' || (after = some '\n' && before ≠ some '\r')
  | .wordBoundary unicode => wordAt unicode before != wordAt unicode after
  | .notWordBoundary unicode => wordAt unicode before == wordAt unicode after
  | .wordStart unicode => !wordAt unicode before && wordAt unicode after
  | .wordEnd unicode => wordAt unicode before && !wordAt unicode after
  | .noWordBefore unicode => !wordAt unicode before
  | .noWordAfter unicode => !wordAt unicode after

end Assertion

namespace Regex

def unite (places others : List Nat) : List Nat :=
  others.foldl (fun all place => if all.contains place then all else all ++ [place]) places

/-- Follows a step a number of times; a step that adds nothing ends it early. -/
def iterate (step : List Nat → List Nat) : Nat → List Nat → List Nat
  | 0, places => places
  | times + 1, places =>
      let next := step places
      if next = places then places else iterate step times next

/-- The places where matches end that start at one of the given places. -/
def reach (text : Array Char) : Regex → List Nat → List Nat
  | .empty, places => places
  | .oneOf charClass, places =>
      places.filterMap fun place =>
        match text[place]? with
        | some c => if charClass.contains c then some (place + 1) else none
        | none => none
  | .assertion condition, places =>
      places.filter fun place =>
        condition.holds (if place = 0 then none else text[place - 1]?) text[place]?
  | .seq a b, places => reach text b (reach text a places)
  | .alt a b, places => unite (reach text a places) (reach text b places)
  | .repeat a least most, places =>
      let started := iterate (reach text a) least places
      let more := fun reached => unite reached (reach text a reached)
      match most with
      | none => iterate more (text.size + 1) started
      | some most => iterate more (most - least) started

def isMatch (regex : Regex) (text : String) : Bool :=
  let chars := text.toList.toArray
  !(reach chars regex (List.range (chars.size + 1))).isEmpty

end Regex

end FluentStyle
