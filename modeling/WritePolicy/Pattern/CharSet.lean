import WritePolicy.Unicode.Category
import WritePolicy.Unicode.Folding
import WritePolicy.Unicode.Property
import WritePolicy.Unicode.Script

/-! # Sets of characters

    A character class is kept as the expression that it was written as: ranges
    and tables, combined by set operations. Membership evaluates the expression
    at a code point, so negation and closure under case need no normal form.
-/

namespace WritePolicy

/-- A set of code points. -/
inductive CharSet where
  | empty
  | range (first last : Nat)
  | ranges (rs : List (Nat × Nat))
  | union (a b : CharSet)
  | inter (a b : CharSet)
  | diff (a b : CharSet)
  | symmDiff (a b : CharSet)
  | compl (a : CharSet)
  /-- all code points that match a member regardless of case -/
  | folded (a : CharSet)
  /-- the same, for ASCII letters only -/
  | asciiFolded (a : CharSet)

namespace CharSet

/-! ## Membership -/

/-- The other case of an ASCII letter. -/
def otherAsciiCase (c : Nat) : Nat :=
  if 0x41 ≤ c ∧ c ≤ 0x5A then c + 32
  else if 0x61 ≤ c ∧ c ≤ 0x7A then c - 32
  else c

/-- The code point is a member. -/
def contains : CharSet → Nat → Bool
  | empty, _ => false
  | range first last, c => first ≤ c && c ≤ last
  | ranges rs, c => rs.any fun r => r.1 ≤ c && c ≤ r.2
  | union a b, c => a.contains c || b.contains c
  | inter a b, c => a.contains c && b.contains c
  | diff a b, c => a.contains c && !b.contains c
  | symmDiff a b, c => a.contains c != b.contains c
  | compl a, c => !a.contains c
  | folded a, c => (Unicode.foldOrbit c).any a.contains
  | asciiFolded a, c => a.contains c || a.contains (otherAsciiCase c)

/-- The character is a member. -/
def containsChar (s : CharSet) (c : Char) : Bool :=
  s.contains c.toNat

/-- One code point. -/
def single (c : Nat) : CharSet :=
  range c c

/-- The union of several sets. -/
def unions (sets : List CharSet) : CharSet :=
  sets.foldl union empty

/-- The complement, under a condition. -/
def complIf (negated : Bool) (s : CharSet) : CharSet :=
  if negated then compl s else s

/-- All code points. -/
def all : CharSet :=
  range 0 0x10FFFF

/-! ## Named sets -/

/-- Decimal digits of all scripts. -/
def digit : CharSet :=
  ranges Unicode.decimalNumber

/-- White space. -/
def space : CharSet :=
  ranges Unicode.whiteSpace

/-- Characters of words: letters, marks, decimal digits, connectors and
    joiners. -/
def word : CharSet :=
  unions ([Unicode.alphabetic, Unicode.nonspacingMark, Unicode.spacingMark, Unicode.enclosingMark,
    Unicode.decimalNumber, Unicode.connectorPunctuation, Unicode.joinControl].map ranges)

/-- Decimal digits of ASCII. -/
def asciiDigit : CharSet :=
  range 0x30 0x39

/-- White space of ASCII. -/
def asciiSpace : CharSet :=
  ranges [(0x09, 0x0D), (0x20, 0x20)]

/-- Characters of words in ASCII. -/
def asciiWord : CharSet :=
  ranges [(0x30, 0x39), (0x41, 0x5A), (0x5F, 0x5F), (0x61, 0x7A)]

/-- The bracketed ASCII classes. -/
def asciiClass? : String → Option CharSet
  | "alnum" => some (ranges [(0x30, 0x39), (0x41, 0x5A), (0x61, 0x7A)])
  | "alpha" => some (ranges [(0x41, 0x5A), (0x61, 0x7A)])
  | "ascii" => some (range 0x00 0x7F)
  | "blank" => some (ranges [(0x09, 0x09), (0x20, 0x20)])
  | "cntrl" => some (ranges [(0x00, 0x1F), (0x7F, 0x7F)])
  | "digit" => some asciiDigit
  | "graph" => some (range 0x21 0x7E)
  | "lower" => some (range 0x61 0x7A)
  | "print" => some (range 0x20 0x7E)
  | "punct" => some (ranges [(0x21, 0x2F), (0x3A, 0x40), (0x5B, 0x60), (0x7B, 0x7E)])
  | "space" => some asciiSpace
  | "upper" => some (range 0x41 0x5A)
  | "word" => some asciiWord
  | "xdigit" => some (ranges [(0x30, 0x39), (0x41, 0x46), (0x61, 0x66)])
  | _ => none

/-! ## Properties by name -/

/-- A name without case, separators, characters beyond ASCII and a leading
    `is`. -/
def looseName (name : List Char) : String :=
  let drop (cs : List Char) :=
    (cs.filter fun c => c.toNat < 128 && c != ' ' && c != '_' && c != '-').map Char.toLower
  match name with
  | a :: b :: rest =>
    if a.toLower == 'i' && b.toLower == 's' then
      let short := String.ofList (drop rest)
      if short == "c" then "isc" else short
    else String.ofList (drop name)
  | _ => String.ofList (drop name)

/-- The value under any of several names. -/
def byName? {α : Type} (table : List (List String × α)) (name : String) : Option α :=
  (table.find? fun e => e.1.contains name).map (·.2)

/-- Assigned code points. -/
def assigned : CharSet :=
  compl (ranges Unicode.unassigned)

/-- A general category or group of categories, by its loose name. -/
def category? (name : String) : Option CharSet :=
  match name with
  | "any" => some all
  | "assigned" => some assigned
  | "ascii" => some (range 0x00 0x7F)
  | _ => (byName? Unicode.categories name).map fun parts => unions (parts.map ranges)

/-- A script, by its loose name. -/
def script? (name : String) : Option CharSet :=
  (byName? Unicode.scripts name).map ranges

/-- A binary property, by its loose name; only those of `Unicode.properties` are
    known. -/
def property? (name : String) : Option CharSet :=
  (byName? Unicode.properties name).map ranges

/-- What a single name stands for: a property, else a category, else a script.
    Three names are read as categories although they abbreviate properties
    too. -/
def named? (name : List Char) : Option CharSet :=
  let loose := looseName name
  let property :=
    if loose == "cf" || loose == "sc" || loose == "lc" then none else property? loose
  property.orElse fun _ => (category? loose).orElse fun _ => script? loose

/-- What a named value of a property stands for. The properties that have values are
    the general category and the script; script extensions, ages and the breaks of
    graphemes, words and sentences are not known. -/
def valued? (property value : List Char) : Option CharSet :=
  let loose := looseName value
  match looseName property with
  | "gc" | "generalcategory" => category? loose
  | "sc" | "script" => script? loose
  | _ => none

end CharSet

end WritePolicy
