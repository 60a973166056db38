import WritePolicy.Number.Power
import WritePolicy.Pattern.Regex

/-! # Searching for a match

    A set of places in a text is a number whose bit `i` stands for place `i`.
    An expression carries each set of places to the set of places that it can
    lead to from there; `concat` is composition, `alt` is union, and `star` is
    the least set that contains the start and is closed under the operand.
    Since there are only finitely many places, `star` is reached after as many
    rounds as there are places.

    An expression is first prepared for a text: which characters are in a set
    and where an assertion holds is found out once. Each round then takes a few
    operations on whole sets.
-/

namespace WritePolicy.Regex

/-! ## Sets of places -/

/-- A set of places of a text. -/
abbrev Places := Nat

namespace Places

/-- All places of a text. -/
def all (text : Characters) : Places :=
  twoTo (text.size + 1) - 1

/-- The places of a text at which a condition holds. -/
def ofText (text : Characters) (holds : Nat → Bool) : Places :=
  (List.range (text.size + 1)).foldl
    (fun acc i => if holds i then acc ||| (1 <<< i) else acc) 0

end Places

/-- A step repeated, as long as it still changes the set. -/
def saturate (step : Places → Places) : Nat → Places → Places
  | 0, s => s
  | fuel + 1, s =>
    let next := s ||| step s
    if next = s then s else saturate step fuel next

/-- A step taken exactly `n` times; nothing comes from the empty set. -/
def iterate (step : Places → Places) : Nat → Places → Places
  | 0, s => s
  | n + 1, s => if s = 0 then 0 else iterate step n (step s)

/-! ## Prepared expressions -/

/-- An expression whose sets and assertions are the places of one text. -/
inductive Prepared where
  /-- stay, at some places -/
  | keep (places : Places)
  /-- go on by one, from some places -/
  | advance (places : Places)
  | concat (a b : Prepared)
  | alt (a b : Prepared)
  | times (a : Prepared) (n : Nat)
  | upTo (a : Prepared) (n : Nat)

/-- The places that a prepared expression leads to from a set of places. -/
def Prepared.reach : Prepared → Places → Places
  | keep places, s => s &&& places
  | advance places, s => (s &&& places) <<< 1
  | concat a b, s => b.reach (a.reach s)
  | alt a b, s => a.reach s ||| b.reach s
  | times a n, s => iterate a.reach n s
  | upTo a n, s => saturate a.reach n s

/-- The expression for a text. -/
def prepare (text : Characters) : Regex → Prepared
  | empty => .keep (Places.all text)
  | chars set => .advance (Places.ofText text (Assertion.after text · set))
  | assertion a => .keep (Places.ofText text (a.holds text ·))
  | concat a b => .concat (a.prepare text) (b.prepare text)
  | alt a b => .alt (a.prepare text) (b.prepare text)
  | star a => .upTo (a.prepare text) (text.size + 1)
  | times a n => .times (a.prepare text) n
  | upTo a n => .upTo (a.prepare text) n

/-- The expression matches some part of the text. -/
def isMatch (r : Regex) (text : String) : Bool :=
  let cs := text.toList.toArray
  (r.prepare cs).reach (Places.all cs) != 0

end WritePolicy.Regex
