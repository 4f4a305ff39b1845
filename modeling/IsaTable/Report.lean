/-
  Events and reporting computations.

  What a run tells about itself is part of its value: a `Report` holds the events in the order in
  which they arose, together with a result or the error that ended the run. Events reported before
  an error are kept.

  * `Event`, `Level`: one message and its severity.
  * `Report`: a monad of results with events.
  * `Report.ofExcept`: a result that is announced when it is there.
-/
namespace IsaTable

/-- The severity of an event, the most severe first. -/
inductive Level where
  | error
  | warn
  | info
  | debug
  | trace
deriving DecidableEq

/-- The name of a level in a log. -/
def Level.name : Level → String
  | error => "ERROR"
  | warn => "WARN"
  | info => "INFO"
  | debug => "DEBUG"
  | trace => "TRACE"

/-- How much has to be shown for a level to be among it. -/
def Level.rank : Level → Nat
  | error => 1
  | warn => 2
  | info => 3
  | debug => 4
  | trace => 5

/-- Something that a run tells about itself. -/
structure Event where
  level : Level
  message : String
deriving DecidableEq

/-- A result, or an error, with the events that led to it. -/
structure Report (ε α : Type) where
  events : List Event
  result : Except ε α

namespace Report

variable {ε ε' α β : Type}

/-- A result without events. -/
def value (a : α) : Report ε α :=
  ⟨[], .ok a⟩

/-- An error without events. -/
def fail (e : ε) : Report ε α :=
  ⟨[], .error e⟩

/-- Goes on with the result, the events of both parts in order; an error ends the run. -/
def andThen (r : Report ε α) (f : α → Report ε β) : Report ε β :=
  match r.result with
  | .ok a => ⟨r.events ++ (f a).events, (f a).result⟩
  | .error e => ⟨r.events, .error e⟩

instance : Monad (Report ε) where
  pure := value
  bind := andThen

/-- A result that is announced by events of its own when it is there. -/
def ofExcept (result : Except ε α) (announce : α → List Event) : Report ε α :=
  match result with
  | .ok a => ⟨announce a, .ok a⟩
  | .error e => ⟨[], .error e⟩

/-- Names the error in another way. -/
def mapError (f : ε → ε') (r : Report ε α) : Report ε' α :=
  ⟨r.events, r.result.mapError f⟩

@[simp] theorem result_pure (a : α) : (pure a : Report ε α).result = .ok a := rfl

@[simp] theorem events_pure (a : α) : (pure a : Report ε α).events = [] := rfl

@[simp] theorem result_bind (r : Report ε α) (f : α → Report ε β) :
    (r >>= f).result = r.result.bind fun a => (f a).result := by
  obtain ⟨events, _ | a⟩ := r <;> rfl

@[simp] theorem result_ofExcept (result : Except ε α) (announce : α → List Event) :
    (ofExcept result announce).result = result := by
  cases result <;> rfl

@[simp] theorem result_mapError (f : ε → ε') (r : Report ε α) :
    (r.mapError f).result = r.result.mapError f := rfl

end Report

end IsaTable
