import OperationCatalog.Decimal.Digits
import OperationCatalog.Value.Basic

/-!
# Checking values against a shape

A value from outside is checked against the shape it should have, and all its faults are
reported at once: a check gives a result or a list of issues, and two checks side by side
(`OperationCatalog.Checked.ap`) give both results or the issues of both, left before right. An
issue says where it is – keys, indexes, and the chosen one of several shapes – and what is
wrong.

Checks are lenient in the way of formats without types: a text may be given as bytes,
a truth value as a number or one of a dozen words, a sequence as a set. What is lenient
is a matter of each check here, and nothing else in the library is lenient.
-/

namespace OperationCatalog

/-- A step from a value to a part of it. -/
inductive Step where
  /-- Under a key, or in one of several shapes. -/
  | name (name : String)
  /-- At an index, or under a key that is an integer. -/
  | index (index : Int)
  deriving DecidableEq, Repr

/-- What is wrong with a value. -/
inductive IssueCause where
  /-- A required part is missing. -/
  | missing
  /-- It is not text. -/
  | notText
  /-- It is bytes that are not text. -/
  | notUnicode
  /-- It is not a sequence. -/
  | notList
  /-- It is a sequence that is too short. -/
  | tooShort
  /-- It is not a mapping of any keys. -/
  | notMapping
  /-- It is not a mapping of the parts of a shape. -/
  | notRecord
  /-- It is nothing that has parts, where one of several shapes is wanted. -/
  | noParts
  /-- It does not say which of several shapes it has. -/
  | noTag
  /-- It says that it has a shape that is none of them. -/
  | unknownTag
  /-- It is not a truth value. -/
  | notBool
  /-- It is a number or a word that is no truth value. -/
  | unclearBool
  /-- It is none of the words that are allowed. -/
  | notAllowed
  /-- It is a part that the shape does not have. -/
  | extra
  /-- It is a key that is not text, where the shape has no other parts. -/
  | badKey
  /-- It is refused for a reason of its own. -/
  | refused (reason : String)
  deriving DecidableEq, Repr

/-- One thing that is wrong, and where. -/
structure Issue where
  /-- The steps from the value to the part that is wrong. -/
  place : List Step
  /-- What is wrong with it. -/
  cause : IssueCause
  deriving DecidableEq, Repr

/-- A result, or everything that is wrong. -/
abbrev Checked (α : Type) := Except (List Issue) α

namespace Checked

variable {α β : Type}

/-- One thing is wrong, here. -/
def wrong (cause : IssueCause) : Checked α := .error [⟨[], cause⟩]

/-- **Two checks side by side**: the issues of both count. -/
def ap (f : Checked (α → β)) (a : Checked α) : Checked β :=
  match f, a with
  | .ok f, .ok a => .ok (f a)
  | .error e, .ok _ => .error e
  | .ok _, .error e => .error e
  | .error e, .error e' => .error (e ++ e')

/-- Two checks side by side, their results put together. -/
def map2 {γ : Type} (f : α → β → γ) (a : Checked α) (b : Checked β) : Checked γ :=
  ap (a.map f) b

/-- Three checks side by side, their results put together. -/
def map3 {γ δ : Type} (f : α → β → γ → δ) (a : Checked α) (b : Checked β) (c : Checked γ) :
    Checked δ :=
  ap (map2 f a b) c

/-- Five checks side by side, their results put together. -/
def map5 {γ δ ε ζ : Type} (f : α → β → γ → δ → ε → ζ) (a : Checked α) (b : Checked β)
    (c : Checked γ) (d : Checked δ) (e : Checked ε) : Checked ζ :=
  ap (ap (map3 f a b c) d) e

/-- The check of a part: its issues are one step further in. -/
def under (step : Step) (a : Checked α) : Checked α :=
  a.mapError fun issues => issues.map fun issue => { issue with place := step :: issue.place }

/-- All results of a list of checks, or all issues. -/
def all : List (Checked α) → Checked (List α)
  | [] => .ok []
  | a :: rest => map2 List.cons a (all rest)

end Checked

namespace Validation

/-! ### Scalars -/

/-- **Text.** Bytes are read as text. -/
def text (g : ValueGraph) : Checked String :=
  match g.top with
  | .scalar (.str s) => .ok s
  | .scalar (.bytes b) =>
    match String.fromUTF8? ⟨b.toArray⟩ with
    | some s => .ok s
    | none => .wrong .notUnicode
  | _ => .wrong .notText

/-- The words that are truth values, whatever the case of their letters. -/
def boolWords : List (String × Bool) :=
  [("true", true), ("t", true), ("yes", true), ("y", true), ("on", true), ("1", true),
    ("false", false), ("f", false), ("no", false), ("n", false), ("off", false), ("0", false)]

/-- The truth value that a word is. -/
def boolOfWord (s : String) : Checked Bool :=
  match boolWords.lookup (String.ofList (s.toList.map Char.toLower)) with
  | some b => .ok b
  | none => .wrong .unclearBool

/-- Whether an integer fits a signed word of sixty-four bits. -/
def isWord (i : Int) : Bool := -(powerOfTwo 63) ≤ i && i < powerOfTwo 63

/-- The truth value that a number is. One that fits no word is not even considered. -/
def boolOfInt (i : Int) : Checked Bool :=
  if i = 0 then .ok false
  else if i = 1 then .ok true
  else if isWord i then .wrong .unclearBool
  else .wrong .notBool

/-- **A truth value**, a word for one, or one of the numbers zero and one. -/
def bool (g : ValueGraph) : Checked Bool :=
  match g.top with
  | .scalar (.bool b) => .ok b
  | .scalar (.str s) => boolOfWord s
  | .scalar (.bytes b) =>
    match String.fromUTF8? ⟨b.toArray⟩ with
    | some s => boolOfWord s
    | none => .wrong .unclearBool
  | .scalar (.int i) => boolOfInt i
  | .scalar (.float x) =>
    match x.exactInt? with
    | some i => if i.natAbs < powerOfTwo 63 then boolOfInt i else .wrong .notBool
    | none => .wrong .notBool
  | _ => .wrong .notBool

/-- One of a few words, written exactly. -/
def oneOf {α : Type} (words : List (String × α)) (g : ValueGraph) : Checked α :=
  match g.top with
  | .scalar (.str s) =>
    match words.lookup s with
    | some a => .ok a
    | none => .wrong .notAllowed
  | _ => .wrong .notAllowed

/-- No value, or what a check says. -/
def nullable {α : Type} (check : ValueGraph → Checked α) (g : ValueGraph) : Checked (Option α) :=
  if g.isNull then .ok none else (check g).map some

/-! ### Collections -/

/-- The items of a sequence, a pair or a set. -/
def items (g : ValueGraph) : Checked (List ValueGraph) :=
  match g.top with
  | .list items => .ok (items.map g.withRoot)
  | .pair a b => .ok [g.withRoot a, g.withRoot b]
  | .set members => .ok (members.map fun m => g.withRoot (.scalar m))
  | _ => .wrong .notList

/-- **A sequence** whose items a check accepts. -/
def listOf {α : Type} (check : ValueGraph → Checked α) (g : ValueGraph) : Checked (List α) :=
  (items g).bind fun found =>
    Checked.all (found.mapIdx fun index item => Checked.under (.index index) (check item))

/-- A mapping with its store. -/
structure Entries where
  /-- What its values share. -/
  graph : ValueGraph
  /-- Its entries. -/
  list : List (Scalar × Value)

/-- The entries of a mapping; otherwise a cause of the caller's. -/
def entries (otherwise : IssueCause) (g : ValueGraph) : Checked Entries :=
  match g.top with
  | .map list => .ok ⟨g, list⟩
  | _ => .wrong otherwise

/-- The value under a key. -/
def Entries.get? (e : Entries) (key : String) : Option ValueGraph :=
  (Value.find? key e.list).map e.graph.withRoot

/-- The value under the first of some keys that is there, with the key. -/
def Entries.first? (e : Entries) (keys : List String) : Option (String × ValueGraph) :=
  keys.findSome? fun key => (e.get? key).map (key, ·)

/-- **A part that must be there.** -/
def Entries.required {α : Type} (e : Entries) (key : String) (check : ValueGraph → Checked α) :
    Checked α :=
  Checked.under (.name key) <|
    match e.get? key with
    | some g => check g
    | none => .wrong .missing

/-- **A part that may be missing**, under a key or another name of it. Its issues are under the
name it has. -/
def Entries.optional {α : Type} (e : Entries) (key : String) (others : List String)
    (default : α) (check : ValueGraph → Checked α) : Checked α :=
  match e.first? (key :: others) with
  | some (found, g) => Checked.under (.name found) (check g)
  | none => .ok default

/-- The step to the value under a key. -/
def keyStep (key : Scalar) : Step :=
  match key with
  | .str s => .name s
  | .bool b => .index (if b then 1 else 0)
  | .int i =>
    if isWord i then .index i
    else .name (if Decimal.isWritable i then toString i else "<unprintable int object>")
  | other => .name (String.ofList other.described)

/-- **A mapping from texts** to what a check accepts, as pairs in order. A key and its value are
both checked. -/
def mappingOf {α : Type} (check : ValueGraph → Checked α) (g : ValueGraph) :
    Checked (List (String × α)) :=
  (entries .notMapping g).bind fun e =>
    Checked.all (e.list.map fun (key, value) =>
      let name := Checked.under (.name "[key]") (text (.ofTree (.scalar key)))
      Checked.under (keyStep key)
        (Checked.map2 Prod.mk name (check (g.withRoot value))))

end Validation

end OperationCatalog
