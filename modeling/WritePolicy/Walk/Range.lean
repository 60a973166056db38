import WritePolicy.Walk.Trace

/-! # Ranges

    Up to four bounds limit the values of an ordinal type. A value and a bound
    are compared by magnitude; a bound that is `null` limits nothing. A bound
    without magnitude is a fault of the definition.
-/

namespace WritePolicy

/-- The bounds of a range. -/
structure RangeRules where
  minimum : Option (Slot Json) := none
  exclusiveMinimum : Option (Slot Json) := none
  maximum : Option (Slot Json) := none
  exclusiveMaximum : Option (Slot Json) := none

namespace RangeRules

/-- The slot of a limit. -/
def slot? (r : RangeRules) : Limit → Option (Slot Json)
  | .minimum => r.minimum
  | .exclusiveMinimum => r.exclusiveMinimum
  | .maximum => r.maximum
  | .exclusiveMaximum => r.exclusiveMaximum

/-- The range with the slot of a limit replaced. -/
def setSlot (r : RangeRules) (limit : Limit) (slot : Slot Json) : RangeRules :=
  match limit with
  | .minimum => { r with minimum := some slot }
  | .exclusiveMinimum => { r with exclusiveMinimum := some slot }
  | .maximum => { r with maximum := some slot }
  | .exclusiveMaximum => { r with exclusiveMaximum := some slot }

/-- The range with a literal bound. -/
def withBound (r : RangeRules) (limit : Limit) (bound : Json) : RangeRules :=
  r.setSlot limit (.literal bound)

end RangeRules

/-- The limits in the order in which they are checked. -/
def Limit.all : List Limit :=
  [.minimum, .exclusiveMinimum, .maximum, .exclusiveMaximum]

namespace Walk

/-- A magnitude against one bound. -/
def bound (type : OrdinalType) (path : Path) (limit : Limit) (actual : Magnitude)
    (bound : Json) : Trace Unit :=
  if bound.isNull then pure ()
  else
    match Magnitude.of? type bound with
    | none => Logged.fail (.invalidBound type bound)
    | some limitMagnitude =>
      match actual.compare? limitMagnitude with
      | none => pure ()
      | some order => Trace.violationIf (limit.excludes order) path (.outOfRange limit bound)

/-- A value against the bounds of a range. -/
def range (type : OrdinalType) (rules : RangeRules) (path : Path) (v : Json) (s : Situation) :
    Trace Unit :=
  match Magnitude.of? type v with
  | none => pure ()
  | some actual =>
    Logged.each (fun limit =>
      Trace.readThen path (.range limit) s (rules.slot? limit) (bound type path limit actual))
      Limit.all

end Walk

end WritePolicy
