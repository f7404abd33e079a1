/-!
# Why a YAML text is not read

Nearly every fault of a text – a character out of place, an indentation that fits
nothing, an alias without its anchor, a tag nobody knows – means one thing to a
caller: this is not a document. The exceptions are scalars whose tag promises
something their text does not keep, where the fault says what was promised.
-/

namespace OperationCatalog.Yaml

/-- Why a YAML text is not read. -/
inductive Fault where
  /-- The text is no document, or a document of unknown tags. -/
  | malformed
  /-- The text of a number is none, or a date does not exist. -/
  | badNumber
  /-- The text of a number is empty. -/
  | emptyNumber
  /-- The text of a truth value is none. -/
  | unknownTruthValue
  /-- The text of a timestamp is none. -/
  | badTimestamp
  /-- A timestamp is a collection. -/
  | collectedTimestamp
  /-- The code of an escape, or the unit of a part of a number to base sixty, is beyond all
  bounds. -/
  | outOfRange
  /-- A scalar stands for itself. -/
  | endlessScalar
  deriving DecidableEq, Repr

end OperationCatalog.Yaml
