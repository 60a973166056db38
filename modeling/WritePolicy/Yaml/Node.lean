import WritePolicy.Yaml.Scanner

/-! # Nodes of YAML

    The nodes of a document, as they are put together of tokens: scalars, sequences
    and mappings with their anchors and tags, and aliases that stand for a node with
    an anchor. A node that is left out is an empty scalar.

    Every call of the reader either takes a token or is followed by one that does,
    so a multiple of the number of tokens bounds the recursion.
-/

namespace WritePolicy.Yaml

/-! ## Nodes -/

/-- What may stand before a node. -/
structure Properties where
  anchor : Option String := none
  tag : Option String := none
  deriving DecidableEq, Repr

/-- A node. The keys of a mapping are nodes, too. -/
inductive Node where
  | alias (name : String)
  | scalar (properties : Properties) (scalar : Scalar)
  | sequence (properties : Properties) (items : List Node)
  | mapping (properties : Properties) (fields : List (Node × Node))
  deriving Repr

/-- A node that is left out. -/
def Node.empty : Node :=
  .scalar {} {}

/-! ## Tags -/

/-- How tags begin, by their handles. -/
abbrev Handles := List (String × String)

/-- The handles that need no directive. -/
def Handles.default : Handles :=
  [("!", "!"), ("!!", "tag:yaml.org,2002:")]

/-- The handles of the directives before a document. There is at most one version, which
    is 1.1 or 1.2, and no handle is given twice. -/
def Handles.ofDirectives? (versioned : Bool) (handles : Handles) :
    List Directive → Option Handles
  | [] => some (handles ++ .default)
  | .version major minor :: rest =>
    if !versioned && major == 1 && (minor == 1 || minor == 2) then
      ofDirectives? true handles rest
    else none
  | .handle handle start :: rest =>
    if handles.any (·.1 == handle) then none
    else ofDirectives? versioned ((handle, start) :: handles) rest

/-- The tag of a name; the handle must be known. -/
def Handles.tag? (handles : Handles) (name : TagName) : Option String :=
  if name.handle == "" then some name.suffix
  else (handles.lookup name.handle).map (· ++ name.suffix)

/-- The properties at the front, an anchor and a tag in either order. -/
def properties? (handles : Handles) : List Token → Option (Properties × List Token)
  | .anchor a :: .tag t :: rest => do return (⟨some a, some (← handles.tag? t)⟩, rest)
  | .tag t :: .anchor a :: rest => do return (⟨some a, some (← handles.tag? t)⟩, rest)
  | .anchor a :: rest => some (⟨some a, none⟩, rest)
  | .tag t :: rest => do return (⟨none, some (← handles.tag? t)⟩, rest)
  | rest => some ({}, rest)

/-! ## Reading nodes -/

/-- Where a node stands: inside brackets, in a block, or as a part of a field in a block,
    where a sequence needs no greater column. -/
inductive Context where
  | flow | block | field
  deriving DecidableEq, Repr

/-- A node of which only the properties were written. -/
def Node.ofProperties? (p : Properties) (rest : List Token) : Option (Node × List Token) :=
  if p = {} then none else some (.scalar p {}, rest)

mutual

/-- The node at the front. A scalar whose tag is a mark alone is one without a tag. -/
def node? (handles : Handles) : Nat → Context → List Token → Option (Node × List Token)
  | 0, _, _ => none
  | _ + 1, _, .alias name :: rest => some (.alias name, rest)
  | fuel + 1, context, tokens => do
    let (p, tokens) ← properties? handles tokens
    match tokens, context with
    | .scalar s :: rest, _ =>
      return (.scalar { p with tag := p.tag.filter (· != "!") } s, rest)
    | .flowSequence :: rest, _ => do
      let (items, rest) ← flowItems? handles fuel rest
      return (.sequence p items, rest)
    | .flowMapping :: rest, _ => do
      let (fields, rest) ← flowFields? handles fuel rest
      return (.mapping p fields, rest)
    | .blockSequence :: rest, .block | .blockSequence :: rest, .field => do
      let (items, rest) ← blockItems? handles fuel rest
      return (.sequence p items, rest)
    | .blockMapping :: rest, .block | .blockMapping :: rest, .field => do
      let (fields, rest) ← blockFields? handles fuel rest
      return (.mapping p fields, rest)
    | .dash :: rest, .field => do
      let (items, rest) ← outdentedItems? handles fuel (.dash :: rest)
      return (.sequence p items, rest)
    | rest, _ => Node.ofProperties? p rest

/-- A part of a collection: the node at the front, or nothing before certain tokens. -/
def part? (handles : Handles) : Nat → Context → List Token → List Token →
    Option (Node × List Token)
  | 0, _, _, _ => none
  | fuel + 1, context, ends, tokens =>
    if tokens.head?.any ends.contains then some (.empty, tokens)
    else node? handles fuel context tokens

/-- The items of a sequence in a block. -/
def blockItems? (handles : Handles) : Nat → List Token → Option (List Node × List Token)
  | 0, _ => none
  | fuel + 1, .dash :: rest => do
    let (item, rest) ← part? handles fuel .block [.dash, .blockEnd] rest
    let (items, rest) ← blockItems? handles fuel rest
    return (item :: items, rest)
  | _ + 1, .blockEnd :: rest => some ([], rest)
  | _ + 1, _ => none

/-- The items of a sequence in the column of the keys around it. -/
def outdentedItems? (handles : Handles) : Nat → List Token → Option (List Node × List Token)
  | 0, _ => none
  | fuel + 1, .dash :: rest => do
    let (item, rest) ← part? handles fuel .block [.dash, .key, .value, .blockEnd] rest
    let (items, rest) ← outdentedItems? handles fuel rest
    return (item :: items, rest)
  | _ + 1, rest => some ([], rest)

/-- The fields of a mapping in a block. -/
def blockFields? (handles : Handles) : Nat → List Token →
    Option (List (Node × Node) × List Token)
  | 0, _ => none
  | fuel + 1, .key :: rest => do
    let (key, rest) ← part? handles fuel .field [.key, .value, .blockEnd] rest
    let (value, rest) ← blockValue? handles fuel rest
    let (fields, rest) ← blockFields? handles fuel rest
    return ((key, value) :: fields, rest)
  | _ + 1, .blockEnd :: rest => some ([], rest)
  | _ + 1, _ => none

/-- The value of a field in a block. -/
def blockValue? (handles : Handles) : Nat → List Token → Option (Node × List Token)
  | 0, _ => none
  | fuel + 1, .value :: rest => part? handles fuel .field [.key, .value, .blockEnd] rest
  | _ + 1, rest => some (.empty, rest)

/-- The items of a sequence in brackets, after the bracket or a comma. -/
def flowItems? (handles : Handles) : Nat → List Token → Option (List Node × List Token)
  | 0, _ => none
  | _ + 1, .flowSequenceEnd :: rest => some ([], rest)
  | fuel + 1, tokens => do
    let (item, rest) ← flowItem? handles fuel tokens
    match rest with
    | .comma :: rest => do
      let (items, rest) ← flowItems? handles fuel rest
      return (item :: items, rest)
    | .flowSequenceEnd :: rest => return ([item], rest)
    | _ => none

/-- An item of a sequence in brackets: a node, or a mapping of one field. -/
def flowItem? (handles : Handles) : Nat → List Token → Option (Node × List Token)
  | 0, _ => none
  | fuel + 1, .key :: rest => do
    let (key, rest) ← flowItemKey? handles fuel rest
    let (value, rest) ← flowValue? handles fuel .flowSequenceEnd rest
    return (.mapping {} [(key, value)], rest)
  | fuel + 1, tokens => node? handles fuel .flow tokens

/-- The key of an item that is a mapping. If it is left out, the token behind it is
    lost. -/
def flowItemKey? (handles : Handles) : Nat → List Token → Option (Node × List Token)
  | 0, _ => none
  | fuel + 1, tokens =>
    if tokens.head?.any [.value, .comma, .flowSequenceEnd].contains then
      some (.empty, tokens.drop 1)
    else node? handles fuel .flow tokens

/-- The fields of a mapping in braces, after the brace or a comma. A node that is not
    marked as a key has no value. -/
def flowFields? (handles : Handles) : Nat → List Token →
    Option (List (Node × Node) × List Token)
  | 0, _ => none
  | _ + 1, .flowMappingEnd :: rest => some ([], rest)
  | fuel + 1, tokens => do
    let (field, rest) ← flowField? handles fuel tokens
    match rest with
    | .comma :: rest => do
      let (fields, rest) ← flowFields? handles fuel rest
      return (field :: fields, rest)
    | .flowMappingEnd :: rest => return ([field], rest)
    | _ => none

/-- A field of a mapping in braces. -/
def flowField? (handles : Handles) : Nat → List Token →
    Option ((Node × Node) × List Token)
  | 0, _ => none
  | fuel + 1, .key :: rest => do
    let (key, rest) ← part? handles fuel .flow [.value, .comma, .flowMappingEnd] rest
    let (value, rest) ← flowValue? handles fuel .flowMappingEnd rest
    return ((key, value), rest)
  | fuel + 1, tokens => do
    let (key, rest) ← node? handles fuel .flow tokens
    return ((key, .empty), rest)

/-- The value of a field inside brackets that end with a token. -/
def flowValue? (handles : Handles) : Nat → Token → List Token → Option (Node × List Token)
  | 0, _, _ => none
  | fuel + 1, close, .value :: rest => part? handles fuel .flow [.comma, close] rest
  | _ + 1, _, rest => some (.empty, rest)

end

/-! ## Documents -/

/-- The directives at the front, and what follows. -/
def directives : List Token → List Directive × List Token
  | .directive d :: rest => ((directives rest).1.cons d, (directives rest).2)
  | rest => ([], rest)

/-- The only document of a text. Directives and a mark may stand before it, and marks of
    its end after it; a text without a document is taken for an empty node. -/
def Node.ofTokens? (tokens : List Token) : Option Node := do
  let fuel := 4 * (tokens.length + 1)
  let (before, rest) := directives tokens
  let handles ← Handles.ofDirectives? false [] before
  let (node, rest) ← match rest with
    | .documentStart :: rest =>
      if rest.isEmpty || rest.head? == some .documentEnd then some (.empty, rest)
      else node? handles fuel .block rest
    | rest =>
      if tokens.isEmpty then some (.empty, rest)
      else if before.isEmpty then node? handles fuel .block rest
      else none
  if rest.all (· == .documentEnd) then some node else none

end WritePolicy.Yaml
