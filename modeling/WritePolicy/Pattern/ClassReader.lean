import WritePolicy.Pattern.Token

/-! # Bracketed classes

    A class lists characters, ranges, escapes, ASCII classes and further
    classes, and may combine such lists by `&&`, `--` and `~~`, from the left
    and all of one strength. The classes that are still open form a stack; the
    innermost has a list that is being read and perhaps an operator that waits
    for it. Without Unicode each of them, and each class that it lists, has to
    stay within ASCII, also where an operator would take the rest away.
-/

namespace WritePolicy.Pattern

/-- An operator between the lists of a class. -/
inductive SetOperator where
  | inter | diff | symmDiff
  deriving DecidableEq, Repr

/-- The set that an operator makes of two. -/
def SetOperator.apply : SetOperator → CharSet → CharSet → CharSet
  | inter => .inter
  | diff => .diff
  | symmDiff => .symmDiff

/-- A list that waits for the list after an operator. -/
structure Operand where
  set : CharSet
  operator : SetOperator
  depth : Nat

/-- A class that is still open. -/
structure OpenClass where
  negated : Bool
  /-- the union of what was listed since the last operator -/
  listed : CharSet
  /-- how deeply each of that is nested -/
  depths : List Nat
  pending : Option Operand := none

namespace OpenClass

/-- The class with a further set in its list, which is nested to a depth. -/
def add (c : OpenClass) (s : CharSet) (depth : Nat) : OpenClass :=
  { c with listed := .union c.listed s, depths := depth :: c.depths }

/-- The set so far: the list, with the operator that waits for it. -/
def value (f : Flags) (c : OpenClass) : CharSet :=
  match c.pending with
  | none => c.listed
  | some left => left.operator.apply (f.close left.set) (f.close c.listed)

/-- The depth of the set so far. -/
def depth (c : OpenClass) : Nat :=
  match c.pending with
  | none => levels c.depths
  | some left => max left.depth (levels c.depths) + 1

/-- An operator ends the list. -/
def operator (f : Flags) (c : OpenClass) (op : SetOperator) : OpenClass :=
  { c with listed := .empty, depths := [], pending := some ⟨c.value f, op, c.depth⟩ }

/-- The set and the depth of the class once it is closed. -/
def close? (f : Flags) (c : OpenClass) : Option (CharSet × Nat) :=
  (f.admit? (.complIf c.negated (f.close (c.value f)))).map (·, c.depth + 1)

end OpenClass

/-- An ASCII class after its first bracket: a name between colons, perhaps
    negated. Case is ignored before the class is negated. -/
def asciiClass? (f : Flags) (cs : List Char) : Option (CharSet × List Char) :=
  match cs with
  | ':' :: rest =>
    let (negated, rest) := match rest with
      | '^' :: rest => (true, rest)
      | rest => (false, rest)
    match rest.dropWhile (· != ':') with
    | ':' :: ']' :: after => do
      let set ← CharSet.asciiClass? (String.ofList (rest.takeWhile (· != ':')))
      return (.complIf negated (f.close set), after)
    | _ => none
  | _ => none

/-- The depths of the hyphens that a class begins with, after the first of them; of
    several it matters only that they are several. -/
def hyphenDepths (f : Flags) (rest : List Char) : List Nat :=
  if (gap f rest).head? == some '-' then [0, 0] else [0]

/-- A class after its first bracket: a caret negates it, hyphens and then a
    closing bracket that come first stand for themselves. -/
def openClass? (f : Flags) (cs : List Char) : Option (OpenClass × List Char) :=
  let (negated, cs) := match gap f cs with
    | '^' :: rest => (true, gap f rest)
    | cs => (false, cs)
  match cs with
  | [] => none
  | ']' :: rest => some (⟨negated, .single 0x5D, [0], none⟩, gap f rest)
  | '-' :: rest =>
    let after := if f.ignoreBlanks then skipWhere (· == '-') false rest
      else rest.dropWhile (· == '-')
    some (⟨negated, .single 0x2D, hyphenDepths f rest, none⟩, after)
  | cs => some (⟨negated, .empty, [], none⟩, cs)

/-- One character or escape in a class. -/
def classItem? (f : Flags) : List Char → Option (Primitive × List Char)
  | [] => none
  | '\\' :: rest => escape? f rest
  | c :: rest => some (.literal c false, rest)

/-- The code point of a literal. Without Unicode it must be ASCII. -/
def literal? (f : Flags) : Primitive → Option Nat
  | .literal c _ => if f.unicode || c.toNat < 128 then some c.toNat else none
  | _ => none

/-- The set that an item of a class stands for. -/
def itemSet? (f : Flags) : Primitive → Option CharSet
  | .literal c b => (literal? f (.literal c b)).map .single
  | .letterClass set asciiSet negated => f.letterClass? set asciiSet negated
  | .property set negated =>
    if f.unicode then some (.complIf negated (f.close set)) else none
  | _ => none

/-- A hyphen that joins two ends of a range: neither the class nor an operator
    follows it. -/
def joinsRange (f : Flags) (afterHyphen : List Char) : Bool :=
  match (gap f afterHyphen).head? with
  | some ']' | some '-' => false
  | _ => true

/-- One item or one range of a class. -/
def classRange? (f : Flags) (cs : List Char) : Option (CharSet × List Char) := do
  let (first, rest) ← classItem? f cs
  match gap f rest with
  | '-' :: afterHyphen =>
    if joinsRange f afterHyphen then
      let (last, rest) ← classItem? f (gap f afterHyphen)
      let low ← literal? f first
      let high ← literal? f last
      if low ≤ high then some (.range low high, rest) else none
    else return (← itemSet? f first, '-' :: afterHyphen)
  | [] => none
  | rest => return (← itemSet? f first, rest)

/-- One step of reading a class: the outermost class ends with a set, or there are
    an innermost class and classes around it to go on with. -/
def classStep? (f : Flags) (inner : OpenClass) (outer : List OpenClass) (cs : List Char) :
    Option (((CharSet × Nat) ⊕ OpenClass × List OpenClass) × List Char) :=
  match cs with
  | [] => none
  | '[' :: rest =>
    match asciiClass? f rest with
    | some (set, rest) => (f.admit? set).map fun set => (.inr (inner.add set 0, outer), rest)
    | none => (openClass? f rest).map fun p => (.inr (p.1, inner :: outer), p.2)
  | ']' :: rest =>
    (inner.close? f).map fun c =>
      match outer with
      | [] => (.inl c, rest)
      | o :: outer => (.inr (o.add c.1 c.2, outer), rest)
  | '&' :: '&' :: rest => some (.inr (inner.operator f .inter, outer), rest)
  | '-' :: '-' :: rest => some (.inr (inner.operator f .diff, outer), rest)
  | '~' :: '~' :: rest => some (.inr (inner.operator f .symmDiff, outer), rest)
  | cs => (classRange? f cs).map fun p => (.inr (inner.add p.1 0, outer), p.2)

/-- The rest of the innermost open class and of those around it. -/
def classBody? (f : Flags) (inner : OpenClass) (outer : List OpenClass) (cs : List Char) :
    Option ((CharSet × Nat) × List Char) :=
  match classStep? f inner outer (gap f cs) with
  | none => none
  | some (.inl set, rest) => some (set, rest)
  | some (.inr (inner, outer), rest) =>
    if _h : rest.length < cs.length then classBody? f inner outer rest else none
termination_by cs.length

/-- A whole class after its first bracket, with the depth to which it is nested. -/
def bracketed? (f : Flags) (cs : List Char) : Option ((CharSet × Nat) × List Char) := do
  let (c, rest) ← openClass? f cs
  classBody? f c [] rest

end WritePolicy.Pattern
