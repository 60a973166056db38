import WritePolicy.Pattern.ClassReader

/-! # Reading pattern sources

    The reader keeps the groups that are open, innermost first, each with the
    alternatives and the items it has read. Flags that are set inside a group
    hold until the group ends, also for its later alternatives.

    An expression may be nested as deeply as `nestLimit` says. Its size is not
    limited: where a compiler of expressions gives up because a repetition such as
    `(\w{1000}){1000}` takes too much room, the reader here does not.
-/

namespace WritePolicy.Pattern

/-- What has been read in sequence: an expression, with the depth to which it is
    nested, or a change of flags, which cannot be repeated. -/
inductive Item where
  | expr (r : Regex) (depth : Nat)
  | flags

/-- The depth to which an item is nested. -/
def Item.depth : Item → Nat
  | expr _ depth => depth
  | flags => 0

/-- The expression of items that are kept last first. -/
def sequence (items : List Item) : Regex :=
  .concats (items.reverse.filterMap fun
    | .expr r _ => some r
    | .flags => none)

/-- A group that is being read. Alternatives are kept last first, with the depths
    to which they are nested. -/
structure OpenGroup where
  branches : List Regex := []
  depths : List Nat := []
  items : List Item := []

namespace OpenGroup

/-- The expression of a group once it is closed. -/
def close (g : OpenGroup) : Regex :=
  match (sequence g.items :: g.branches).reverse with
  | [] => .empty
  | r :: rest => .alts r rest

/-- The depth of the items. -/
def itemsDepth (g : OpenGroup) : Nat :=
  levels (g.items.map Item.depth)

/-- The depth of what is in the group. -/
def depth (g : OpenGroup) : Nat :=
  levels (g.itemsDepth :: g.depths)

end OpenGroup

/-- The state of the reader: the innermost group, the groups around it with
    the flags that hold there, the flags that hold here, and the group names
    that are taken. -/
structure Reader where
  group : OpenGroup := {}
  outer : List (OpenGroup × Flags) := []
  flags : Flags := {}
  names : List String := []

/-- The expression of a primitive under the flags that hold. -/
def Primitive.regex? (f : Flags) : Primitive → Option Regex
  | .literal c isByte =>
    if f.unicode || c.toNat < 128 then some (.chars (f.close (.single c.toNat)))
    else if isByte || f.ignoreCase then none
    else some (.chars (.single c.toNat))
  | .letterClass set asciiSet negated => (f.letterClass? set asciiSet negated).map .chars
  | .property set negated =>
    if f.unicode then some (.chars (.complIf negated (f.close set))) else none
  | .assertion make => some (.assertion (make (if f.unicode then .word else .asciiWord)))
  | .dot =>
    if !f.unicode then none
    else if f.dotAll then some (.chars .all)
    else if f.crlf then some (.chars (.compl (.ranges [(0x0A, 0x0A), (0x0D, 0x0D)])))
    else some (.chars (.compl (.single 0x0A)))
  | .caret =>
    some (.assertion (if !f.multiLine then .textStart
      else if f.crlf then .crlfLineStart else .lineStart))
  | .dollar =>
    some (.assertion (if !f.multiLine then .textEnd
      else if f.crlf then .crlfLineEnd else .lineEnd))

/-- The token at the front, which is a character `c` followed by others. -/
def token? (f : Flags) (c : Char) (rest : List Char) : Option (Token × List Char) :=
  match c with
  | '(' => opening? f rest
  | ')' => some (.closeGroup, rest)
  | '|' => some (.bar, rest)
  | '[' => (bracketed? f rest).map fun p => (.classSet p.1.1 p.1.2, p.2)
  | '?' => some (.repetition 0 (some 1), skipGreed rest)
  | '*' => some (.repetition 0 none, skipGreed rest)
  | '+' => some (.repetition 1 none, skipGreed rest)
  | '\x7b' => do
    let (body, rest) ← braceBody? f false [] rest
    let (least, most) ← counts? body
    return (.repetition least most, skipGreed (gap f rest))
  | '\\' => (escape? f rest).map fun p => (.primitive p.1, p.2)
  | '.' => some (.primitive .dot, rest)
  | '^' => some (.primitive .caret, rest)
  | '$' => some (.primitive .dollar, rest)
  | c => some (.primitive (.literal c false), rest)

namespace Reader

/-- The reader with a further item in the innermost group. -/
def push (r : Reader) (item : Item) : Reader :=
  { r with group := { r.group with items := item :: r.group.items } }

/-- One token. -/
def apply (r : Reader) : Token → Option Reader
  | .primitive p => do return r.push (.expr (← p.regex? r.flags) 0)
  | .classSet s depth => some (r.push (.expr (.chars s) depth))
  | .setFlags changes => some { r.push .flags with flags := r.flags.setAll changes }
  | .openGroup changes name =>
    if name.any r.names.contains then none
    else some {
      group := {}
      outer := (r.group, r.flags) :: r.outer
      flags := r.flags.setAll changes
      names := name.toList ++ r.names }
  | .closeGroup =>
    match r.outer with
    | [] => none
    | (g, f) :: outer =>
      let item := .expr r.group.close (r.group.depth + 1)
      some ({ r with group := g, outer, flags := f }.push item)
  | .bar =>
    some { r with group := {
      branches := sequence r.group.items :: r.group.branches
      depths := r.group.itemsDepth :: r.group.depths } }
  | .repetition least most =>
    match r.group.items with
    | .expr e depth :: items =>
      let item := .expr (e.repeated least most) (depth + 1)
      some { r with group := { r.group with items := item :: items } }
    | _ => none

/-- All tokens of the characters that are left. -/
def run (r : Reader) (cs : List Char) : Option Reader :=
  match gap r.flags cs with
  | [] => some r
  | c :: rest =>
    match token? r.flags c rest with
    | none => none
    | some (t, rest) =>
      if _h : rest.length < cs.length then
        match r.apply t with
        | some r => run r rest
        | none => none
      else none
termination_by cs.length

/-- The expression, once all groups are closed. -/
def finish (r : Reader) : Option Regex :=
  if r.outer.isEmpty && r.group.depth ≤ nestLimit then some r.group.close else none

end Reader

/-- The expression that a source denotes; none if it is not well formed, is nested too
    deeply or names a class that is not known (`CharSet.named?`, `CharSet.valued?`). -/
def regex? (source : List Char) : Option Regex :=
  (Reader.run {} source).bind Reader.finish

end WritePolicy.Pattern
