/-!
# Recording what happens

A run reports what it does as a list of records, whether it succeeds or not. A
computation that may fail and that records is an `OperationCatalog.Logged`: the records so far
next to the result. Running one after another appends the records; after a failure nothing
more is recorded, and what was recorded before stays.
-/

namespace OperationCatalog

/-- How important a record is, from least to most. -/
inductive Level where
  /-- Of interest when looking for a fault. -/
  | debug
  /-- The usual course of a run. -/
  | info
  /-- Something is probably not as it was meant. -/
  | warning
  /-- The run fails. -/
  | error
  /-- Nothing is recorded at this level; as a threshold it hides everything else. -/
  | critical
  deriving DecidableEq, Repr

namespace Level

/-- The place of a level from least to most important. -/
def rank : Level → Nat
  | debug => 0
  | info => 1
  | warning => 2
  | error => 3
  | critical => 4

/-- The name of a level. -/
def name : Level → String
  | debug => "DEBUG"
  | info => "INFO"
  | warning => "WARNING"
  | error => "ERROR"
  | critical => "CRITICAL"

/-- All levels, from least to most important. -/
def all : List Level := [debug, info, warning, error, critical]

end Level

/-- One record. -/
structure Record where
  /-- How important it is. -/
  level : Level
  /-- What it says. -/
  text : String
  /-- The text of the failure it reports, which follows its own text. -/
  cause : Option String := none
  deriving DecidableEq, Repr

/-- The whole text of a record. -/
def Record.fullText (r : Record) : String :=
  match r.cause with
  | some cause => r.text ++ ": " ++ cause
  | none => r.text

/-- **A computation that may fail and that records.** -/
structure Logged (ε α : Type) where
  /-- What was recorded, first to last. -/
  records : List Record
  /-- The result or the failure. -/
  outcome : Except ε α

namespace Logged

variable {ε ε' α β : Type}

/-- A result without records. -/
def pure (a : α) : Logged ε α := ⟨[], .ok a⟩

/-- A failure without records. -/
def fail (e : ε) : Logged ε α := ⟨[], .error e⟩

/-- One computation after another. -/
def bind (x : Logged ε α) (f : α → Logged ε β) : Logged ε β :=
  match x.outcome with
  | .ok a => ⟨x.records ++ (f a).records, (f a).outcome⟩
  | .error e => ⟨x.records, .error e⟩

instance : Monad (Logged ε) where
  pure := Logged.pure
  bind := Logged.bind

/-- A computation that records nothing. -/
def lift (outcome : Except ε α) : Logged ε α := ⟨[], outcome⟩

/-- Record something. -/
def record (level : Level) (text : String) : Logged ε Unit := ⟨[⟨level, text, none⟩], .ok ()⟩

/-- The same with other failures. -/
def mapError (f : ε → ε') (x : Logged ε α) : Logged ε' α := ⟨x.records, x.outcome.mapError f⟩

@[simp] theorem records_pure (a : α) : (pure a : Logged ε α).records = [] := rfl

@[simp] theorem outcome_pure (a : α) : (pure a : Logged ε α).outcome = .ok a := rfl

@[simp] theorem outcome_lift (o : Except ε α) : (lift o).outcome = o := rfl

/-- The result of one computation after another is that of the results. -/
theorem outcome_bind (x : Logged ε α) (f : α → Logged ε β) :
    (x.bind f).outcome = x.outcome.bind fun a => (f a).outcome := by
  unfold bind
  cases x.outcome <;> rfl

end Logged

end OperationCatalog
