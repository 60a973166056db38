import WritePolicy.Pattern.CharSet

/-! # Regular expressions

    Expressions over characters with assertions about the place in the text.
    What an expression matches is a relation between two places: the place
    before and the place after the matched part. The rules are those of the
    operators and say nothing about how a match is searched; greediness makes
    no difference to them.
-/

namespace WritePolicy

/-- A condition on a place in the text. -/
inductive Assertion where
  | textStart
  | textEnd
  | lineStart
  | lineEnd
  /-- lines may also end in a carriage return -/
  | crlfLineStart
  | crlfLineEnd
  | wordBoundary (word : CharSet)
  | notWordBoundary (word : CharSet)
  | wordStart (word : CharSet)
  | wordEnd (word : CharSet)
  | wordStartHalf (word : CharSet)
  | wordEndHalf (word : CharSet)

/-- A regular expression. -/
inductive Regex where
  | empty
  | chars (set : CharSet)
  | assertion (a : Assertion)
  | concat (a b : Regex)
  | alt (a b : Regex)
  | star (a : Regex)
  /-- exactly `n` times -/
  | times (a : Regex) (n : Nat)
  /-- at most `n` times -/
  | upTo (a : Regex) (n : Nat)

namespace Regex

/-- One expression after the other. -/
def concats (parts : List Regex) : Regex :=
  match parts with
  | [] => empty
  | [r] => r
  | r :: rest => concat r (concats rest)

/-- Any of several expressions; there is at least one. -/
def alts (first : Regex) : List Regex → Regex
  | [] => first
  | r :: rest => alt first (alts r rest)

/-- Between `least` and `most` times, or any number of times from `least`. -/
def repeated (r : Regex) (least : Nat) : Option Nat → Regex
  | none => concat (times r least) (star r)
  | some most => concat (times r least) (upTo r (most - least))

end Regex

/-! ## Places in a text -/

/-- A text as characters that can be reached by their index. -/
abbrev Characters := Array Char

namespace Assertion

/-- The character before a place is in a set. -/
def before (text : Characters) (i : Nat) (set : CharSet) : Bool :=
  match i with
  | 0 => false
  | j + 1 => match text[j]? with
    | some c => set.containsChar c
    | none => false

/-- The character after a place is in a set. -/
def after (text : Characters) (i : Nat) (set : CharSet) : Bool :=
  match text[i]? with
  | some c => set.containsChar c
  | none => false

/-- A line feed. -/
def lineFeed : CharSet := .single 0x0A

/-- A carriage return. -/
def carriageReturn : CharSet := .single 0x0D

/-- The condition holds at a place. -/
def holds (text : Characters) (i : Nat) : Assertion → Bool
  | textStart => i == 0
  | textEnd => i == text.size
  | lineStart => i == 0 || before text i lineFeed
  | lineEnd => i == text.size || after text i lineFeed
  | crlfLineStart =>
    i == 0 || before text i lineFeed ||
      (before text i carriageReturn && !after text i lineFeed)
  | crlfLineEnd =>
    i == text.size || after text i carriageReturn ||
      (after text i lineFeed && !before text i carriageReturn)
  | wordBoundary word => before text i word != after text i word
  | notWordBoundary word => before text i word == after text i word
  | wordStart word => !before text i word && after text i word
  | wordEnd word => before text i word && !after text i word
  | wordStartHalf word => !before text i word
  | wordEndHalf word => !after text i word

end Assertion

/-! ## What an expression matches -/

/-- The expression matches the text from one place to another. -/
inductive Matches (text : Characters) : Regex → Nat → Nat → Prop where
  | empty {i : Nat} : i ≤ text.size → Matches text .empty i i
  | chars {set : CharSet} {i : Nat} (h : i < text.size) :
      set.containsChar text[i] = true → Matches text (.chars set) i (i + 1)
  | assertion {a : Assertion} {i : Nat} :
      i ≤ text.size → a.holds text i = true → Matches text (.assertion a) i i
  | concat {a b : Regex} {i j k : Nat} :
      Matches text a i j → Matches text b j k → Matches text (.concat a b) i k
  | altLeft {a b : Regex} {i j : Nat} : Matches text a i j → Matches text (.alt a b) i j
  | altRight {a b : Regex} {i j : Nat} : Matches text b i j → Matches text (.alt a b) i j
  | starNone {a : Regex} {i : Nat} : i ≤ text.size → Matches text (.star a) i i
  | starMore {a : Regex} {i j k : Nat} :
      Matches text a i j → Matches text (.star a) j k → Matches text (.star a) i k
  | timesZero {a : Regex} {i : Nat} : i ≤ text.size → Matches text (.times a 0) i i
  | timesSucc {a : Regex} {n i j k : Nat} :
      Matches text a i j → Matches text (.times a n) j k → Matches text (.times a (n + 1)) i k
  | upToNone {a : Regex} {n i : Nat} : i ≤ text.size → Matches text (.upTo a n) i i
  | upToSucc {a : Regex} {n i j k : Nat} :
      Matches text a i j → Matches text (.upTo a n) j k → Matches text (.upTo a (n + 1)) i k

end WritePolicy
