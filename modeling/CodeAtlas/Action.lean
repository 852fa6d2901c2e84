import CodeAtlas.Failure

/-!
# Actions

An action changes a state, records events and gives a result or fails. What it did before it failed
stays done. An interruption is a failure that no action survives; any other can be rescued.
-/

namespace CodeAtlas

/-- An action on a state. -/
def Action (σ α : Type) : Type :=
  σ × Log → Except Failure α × (σ × Log)

namespace Action

variable {σ τ α β : Type}

/-- One action after another, as long as none fails. -/
def andThen (x : Action σ α) (f : α → Action σ β) : Action σ β := fun s =>
  match x s with
  | (.ok a, s') => f a s'
  | (.error e, s') => (.error e, s')

instance : Monad (Action σ) where
  pure a := fun s => (.ok a, s)
  bind := andThen

/-- An action that fails. -/
def fail (f : Failure) : Action σ α := fun s =>
  (.error f, s)

/-- The state as it is. -/
def get : Action σ σ := fun s =>
  (.ok s.1, s)

/-- Puts a state in place of the one before. -/
def put (state : σ) : Action σ Unit := fun s =>
  (.ok (), (state, s.2))

/-- Changes the state. -/
def modify (f : σ → σ) : Action σ Unit := fun s =>
  (.ok (), (f s.1, s.2))

/-- Records an event. -/
def record (e : Event) : Action σ Unit := fun s =>
  (.ok (), (s.1, s.2 ++ [e]))

/-- Records events. -/
def recordAll (es : Log) : Action σ Unit := fun s =>
  (.ok (), (s.1, s.2 ++ es))

/-- A result that may be a failure. -/
def ofExcept : Except Failure α → Action σ α
  | .ok a => pure a
  | .error f => fail f

/-- Whether a failure is an interruption. -/
def isInterruption : Failure → Bool
  | .fault .interrupt _ => true
  | _ => false

/-- Goes on with `handler` where an action fails, unless it was interrupted. -/
def rescue (x : Action σ α) (handler : Failure → Action σ α) : Action σ α := fun s =>
  match x s with
  | (.ok a, s') => (.ok a, s')
  | (.error f, s') => if isInterruption f then (.error f, s') else handler f s'

/-- The outcome of an action, whatever it is; this never fails. -/
def attempt (x : Action σ α) : Action σ (Except Failure α) := fun s =>
  match x s with
  | (r, s') => (.ok r, s')

/-- An action on a part of a state. -/
def within (part : σ → τ) (update : σ → τ → σ) (x : Action τ α) : Action σ α := fun s =>
  match x (part s.1, s.2) with
  | (r, (t, log)) => (r, (update s.1 t, log))

/-- Does something for each item of a list, in order. -/
def forEach (f : α → Action σ Unit) : List α → Action σ Unit
  | [] => pure ()
  | a :: as => do
    f a
    forEach f as

end Action

end CodeAtlas
