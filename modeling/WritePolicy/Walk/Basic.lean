import WritePolicy.Walk.Item

/-! # Walks

    A walk descends a validator tree together with the new document and, beside
    it, the prior one: by name into objects, by index into arrays, by key into
    hashtables. It visits the declared properties of an object in order of
    declaration and then reports the properties that are not declared, in order
    of appearance. It descends only into values of the declared type.
-/

namespace WritePolicy.Walk

/-- The fields of a value that is an object. -/
def fieldsOf (v : Json) : Entries Json :=
  v.asObject?.getD []

/-- The items of a value that is an array. -/
def itemsOf (v : Json) : List Json :=
  v.asArray?.getD []

/-- Properties that are neither declared nor the store's are violations, unless
    unknown properties are allowed. -/
def unsupported (declared : List String) (allowed : Bool) (path : Path) (fields : Entries Json) :
    Trace Unit :=
  if allowed then pure ()
  else
    Logged.each (fun name => Trace.violation (path ++ [.property name]) .unsupported)
      ((Entries.keys fields).filter fun name =>
        !declared.contains name && !Document.isReserved name)

/-- Items with their indexes. -/
def indexed (items : List Json) : List (Nat × Json) :=
  (List.range items.length).zip items

mutual

/-- The position of a validator, and all positions below it. -/
def item (s : Situation) (path : Path) (value oldValue : Option Json) : Validator → Trace Unit
  | .scalar rules type =>
    let here := s.withItem value oldValue
    position type.dataType rules path here (scalar type path here)
  | .object rules none _ =>
    position .object rules path (s.withItem value oldValue) fun _ => pure ()
  | .object rules (some declared) allowUnknown =>
    let here := s.withItem value oldValue
    position .object rules path here fun v => do
      let allowed ← Trace.read path .allowUnknownProperties here allowUnknown
      properties s path (fieldsOf v) oldValue declared
      unsupported (Entries.keys declared) allowed path (fieldsOf v)
  | .array rules length none =>
    let here := s.withItem value oldValue
    position .array rules path here fun v =>
      size length .length path here (itemsOf v).length
  | .array rules length (some element) =>
    let here := s.withItem value oldValue
    position .array rules path here fun v => do
      size length .length path here (itemsOf v).length
      Logged.each (fun e => item s (path ++ [.element e.1]) (some e.2)
        (oldValue.bind (·.item? e.1)) element) (indexed (itemsOf v))
  | .hashtable rules limits keys none =>
    let here := s.withItem value oldValue
    position .hashtable rules path here fun v => do
      size limits .entries path here (fieldsOf v).length
      Logged.each (fun e => key keys path here e.1) (fieldsOf v)
  | .hashtable rules limits keys (some entry) =>
    let here := s.withItem value oldValue
    position .hashtable rules path here fun v => do
      size limits .entries path here (fieldsOf v).length
      Logged.each (fun e => do
        key keys path here e.1
        item s (path ++ [.entry e.1]) (some e.2) (oldValue.bind (·.field? e.1)) entry)
        (fieldsOf v)

/-- The declared properties of an object, in order. -/
def properties (s : Situation) (path : Path) (fields : Entries Json) (oldValue : Option Json) :
    List (String × Validator) → Trace Unit
  | [] => pure ()
  | (name, v) :: rest => do
    item s (path ++ [.property name]) (Entries.get? name fields)
      (oldValue.bind (·.field? name)) v
    properties s path fields oldValue rest

end

/-- A walk over a document from its top. -/
def document (declared : Properties) (allowUnknown : Bool) (s : Situation) : Trace Unit := do
  properties s [] s.newDoc.fields (s.oldDoc.map Document.toJson) declared
  unsupported (Entries.keys declared) allowUnknown [] s.newDoc.fields

end WritePolicy.Walk
