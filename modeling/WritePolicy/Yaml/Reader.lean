import WritePolicy.Yaml.Node

/-! # Reading YAML text

    A text is one document, with or without marks around it. It is read in three
    steps: the text becomes tokens, these become a node, and the node is composed to
    a value, as JSON. Mappings are read as objects, with the texts of the keys.

    An alias stands for the node that had its anchor last. A node is composed once,
    and what came of it is used again; how deeply collections nest and how many
    aliases are followed is counted as if it was not.
-/

namespace WritePolicy.Yaml

/-- The greatest number of collections inside one another. -/
def depthLimit : Nat := 128

/-- How many aliases may be followed for each part of a document. -/
def repetitionLimit : Nat := 100

/-! ## What nodes stand for -/

/-- What a node stands for. A scalar has a value and can be a key. -/
inductive Content where
  | scalar (scalar : Scalar) (tag : Option String)
  | collection (value : Json)

/-- The value; none if the scalar has none. -/
def Content.value? : Content → Option Json
  | scalar s tag => s.value? tag
  | collection v => some v

/-- The text of a key. -/
def Content.key? : Content → Option String
  | scalar s _ => some s.text
  | collection _ => none

/-- A node that is composed: how many collections are inside one another in it, and how
    many aliases were followed for it. -/
structure Composed where
  content : Content
  depth : Nat := 0
  follows : Nat := 0

/-- What is known after a part of a document: the nodes with anchors, last first, as far
    as they are complete; how many aliases were followed; and of how many parts the
    document is so far. -/
structure Composer where
  anchors : List (String × Option Composed) := []
  follows : Nat := 0
  parts : Nat := 0

namespace Composer

/-- A node begins, perhaps with an anchor. -/
def begin (c : Composer) : Option String → Composer
  | none => c
  | some name => { c with anchors := (name, none) :: c.anchors }

/-- The innermost node that is not complete and has an anchor, completed. -/
def completed (name : String) (node : Composed) :
    List (String × Option Composed) → List (String × Option Composed)
  | [] => []
  | (other, none) :: rest =>
    if other = name then (other, some node) :: rest
    else (other, none) :: completed name node rest
  | e :: rest => e :: completed name node rest

/-- A node is complete. -/
def complete (c : Composer) (anchor : Option String) (node : Composed) : Composer :=
  match anchor with
  | none => c
  | some name => { c with anchors := completed name node c.anchors }

/-- The node that an alias stands for. There is none inside of the node itself. -/
def target? (c : Composer) (name : String) : Option Composed :=
  (c.anchors.lookup name).join

/-- So many parts more. -/
def count (c : Composer) (parts : Nat) : Composer :=
  { c with parts := c.parts + parts }

/-- A collection ends that began before; it must not have a local tag. -/
def collect? (c before : Composer) (p : Properties) (value : Json) (depth : Nat) :
    Option (Composed × Composer) :=
  let node : Composed := ⟨.collection value, depth + 1, c.follows - before.follows⟩
  if p.tag.any isLocalTag then none else some (node, (c.complete p.anchor node).count 2)

end Composer

mutual

/-- What a node stands for, after the parts of the document before it. -/
def Node.compose? : Node → Composer → Option (Composed × Composer)
  | .alias name, c => do
    let node ← c.target? name
    return (node, { c.count 1 with follows := c.follows + node.follows + 1 })
  | .scalar p s, c =>
    let node : Composed := ⟨.scalar s p.tag, 0, 0⟩
    some (node, ((c.begin p.anchor).complete p.anchor node).count 1)
  | .sequence p items, c => do
    let (values, depth, after) ← composeItems? items (c.begin p.anchor)
    after.collect? c p (.array values) depth
  | .mapping p fields, c => do
    let (entries, depth, after) ← composeFields? fields [] (c.begin p.anchor)
    after.collect? c p (.object entries) depth

/-- The values of items, and the depth of the deepest. -/
def composeItems? : List Node → Composer → Option (List Json × Nat × Composer)
  | [], c => some ([], 0, c)
  | item :: rest, c => do
    let (node, c) ← item.compose? c
    let value ← node.content.value?
    let (values, depth, c) ← composeItems? rest c
    return (value :: values, max node.depth depth, c)

/-- The entries of an object, after those that were read, and the depth of the deepest. -/
def composeFields? : List (Node × Node) → Entries Json → Composer →
    Option (Entries Json × Nat × Composer)
  | [], entries, c => some (entries, 0, c)
  | (key, value) :: rest, entries, c => do
    let (node, c) ← key.compose? c
    let name ← node.content.key?
    let (node, c) ← value.compose? c
    let v ← node.content.value?
    let (entries, depth, c) ← composeFields? rest (Entries.insert name v entries) c
    return (entries, max node.depth depth, c)

end

/-! ## Texts -/

/-- The value of a document, within the limits of depth and repetition. -/
def Node.value? (n : Node) : Option Json := do
  let (node, c) ← n.compose? {}
  if node.depth ≤ depthLimit && c.follows ≤ repetitionLimit * c.parts then node.content.value?
  else none

/-- The value of the only document of a text, as JSON; none if the text is not YAML, has
    several documents or a tag with percent escapes, or has no JSON value. It has none if
    a key is a collection, a tag is local or does not fit its scalar, an integer has no
    place, or one of the limits is exceeded. -/
def parse? (text : String) : Option Json := do
  let tokens ← tokens? text
  let node ← Node.ofTokens? tokens
  node.value?

end WritePolicy.Yaml
