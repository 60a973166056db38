/-! # Logged computations

    A computation that leaves a log and ends with a result or a failure. The
    log is kept whichever way it ends. Running one computation after another
    appends their logs, so the log of a whole is the concatenation of the logs
    of the parts that were run.
-/

namespace WritePolicy

/-- A log of `ω` and an outcome: a value, or a failure. -/
structure Logged (ω ε α : Type) where
  log : List ω
  outcome : Except ε α

namespace Logged

variable {ω ε α β : Type}

/-- Nothing is logged. -/
protected def pure (a : α) : Logged ω ε α :=
  ⟨[], .ok a⟩

/-- One computation after another; a failure ends the whole. -/
protected def bind (c : Logged ω ε α) (f : α → Logged ω ε β) : Logged ω ε β :=
  match c.outcome with
  | .ok a => ⟨c.log ++ (f a).log, (f a).outcome⟩
  | .error e => ⟨c.log, .error e⟩

instance : Monad (Logged ω ε) where
  pure := Logged.pure
  bind := Logged.bind

/-- One entry of the log. -/
def tell (entry : ω) : Logged ω ε Unit :=
  ⟨[entry], .ok ()⟩

/-- A failure. -/
def fail (e : ε) : Logged ω ε α :=
  ⟨[], .error e⟩

/-- An outcome without a log. -/
def ofExcept (outcome : Except ε α) : Logged ω ε α :=
  ⟨[], outcome⟩

/-- A computation for each member of a list, in order. -/
def each (f : α → Logged ω ε Unit) : List α → Logged ω ε Unit
  | [] => Logged.pure ()
  | a :: rest => do
    f a
    each f rest

end Logged

end WritePolicy
