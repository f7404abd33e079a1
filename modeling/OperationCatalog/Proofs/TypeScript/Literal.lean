import Mathlib.Tactic.SplitIfs
import OperationCatalog.GraphQL.Token.Lexer
import OperationCatalog.TypeScript.Literal

/-!
# Reading text literals

A text literal of the generated language is read from its opening quote to the first quote that no
backslash precedes (`OperationCatalog.TypeScript.readLiteral`). A line break inside is refused.
After a backslash stands an escape: a letter for a control character, two hexadecimal digits, four
of them or a number in braces, a zero, a line break that is skipped, or any other character, which
then stands for itself.

A literal that is written is read back as the text it was written for, whatever the text is and
whatever follows (`OperationCatalog.TypeScript.readLiteral_textChars`): no text ends its literal
early. And no text breaks the line of its literal
(`OperationCatalog.TypeScript.notMem_textLiteral`). So a literal says by itself where it ends, in
whatever code it stands (`OperationCatalog.TypeScript.textLiteral_delimits_itself`).
-/

namespace OperationCatalog.TypeScript

/-! ### The reader -/

/-- What a character after a backslash stands for, if it stands alone. -/
def escapedChar (c : Char) : Char :=
  match c with
  | 'n' => '\n'
  | 'r' => '\r'
  | 't' => '\t'
  | 'b' => '\x08'
  | 'f' => '\x0c'
  | 'v' => '\x0b'
  | other => other

/-- **An escape**, after its backslash: the characters it stands for, and the text after it. Half
of a pair is no character. -/
def readEscape : List Char → Option (List Char × List Char)
  | [] => none
  | '\r' :: '\n' :: rest => some ([], rest)
  | 'x' :: rest =>
    match rest with
    | a :: b :: rest => do
      let high ← GraphQL.hexValue? a
      let low ← GraphQL.hexValue? b
      return ([Char.ofNat (high * 16 + low)], rest)
    | _ => none
  | 'u' :: '\x7b' :: rest =>
    (GraphQL.readBracedEscape [] rest).toOption.map fun (c, rest) => ([c], rest)
  | 'u' :: rest => (GraphQL.readFixedEscape [] rest).toOption.map fun (c, rest) => ([c], rest)
  | c :: rest =>
    if c == '\n' || c == '\r' || c == '\u2028' || c == '\u2029' then some ([], rest)
    else if c.isDigit then
      if c == '0' && !rest.head?.any Char.isDigit then some (['\x00'], rest) else none
    else some ([escapedChar c], rest)

/-- The characters of a literal up to its closing quote, and the text after it. -/
def readBody : (bound : Nat) → List Char → Option (List Char × List Char)
  | 0, _ => none
  | _, [] => none
  | bound + 1, c :: rest =>
    if c == '\'' then some ([], rest)
    else if c == '\\' then do
      let (meant, rest) ← readEscape rest
      let (more, rest) ← readBody bound rest
      return (meant ++ more, rest)
    else if c == '\n' || c == '\r' then none
    else do
      let (more, rest) ← readBody bound rest
      return (c :: more, rest)

/-- **A text literal**: the text it stands for, and the text after it. -/
def readLiteral : List Char → Option (List Char × List Char)
  | '\'' :: rest => readBody (rest.length + 1) rest
  | _ => none

/-! ### Reading what is written -/

/-- One character that is written is read back. -/
theorem readBody_escapeChar (bound : Nat) (c : Char) (rest : List Char) :
    readBody (bound + 1) (escapeChar c ++ rest) =
      (readBody bound rest).map fun (more, rest) => (c :: more, rest) := by
  have lifted : ∀ x : Option (List Char × List Char),
      (x.bind fun a => some (c :: a.1, a.2)) = x.map fun (more, rest) => (c :: more, rest) := by
    intro x
    cases x <;> rfl
  rw [← lifted]
  unfold escapeChar
  -- four characters are escaped, and any other one is read as itself since it is none of them
  split_ifs with hbackslash hquote hfeed hreturn
  · obtain rfl := beq_iff_eq.mp hbackslash
    rfl
  · obtain rfl := beq_iff_eq.mp hquote
    rfl
  · obtain rfl := beq_iff_eq.mp hfeed
    rfl
  · obtain rfl := beq_iff_eq.mp hreturn
    rfl
  · simp only [List.singleton_append, readBody, hbackslash, hquote, hfeed, hreturn, Bool.or_self]
    rfl

/-- The characters of a literal are read back, with room for as many. -/
theorem readBody_flatMap (s rest : List Char) {bound : Nat} (h : s.length < bound) :
    readBody bound (s.flatMap escapeChar ++ '\'' :: rest) = some (s, rest) := by
  induction s generalizing bound with
  | nil =>
    obtain ⟨bound, rfl⟩ := Nat.exists_eq_succ_of_ne_zero (Nat.ne_of_gt h)
    rfl
  | cons c s ih =>
    obtain ⟨bound, rfl⟩ := Nat.exists_eq_succ_of_ne_zero (Nat.ne_of_gt (Nat.zero_lt_of_lt h))
    rw [List.flatMap_cons, List.append_assoc, readBody_escapeChar, ih (Nat.lt_of_succ_lt_succ h)]
    rfl

theorem length_le_flatMap_escapeChar (s : List Char) :
    s.length ≤ (s.flatMap escapeChar).length := by
  induction s with
  | nil => exact Nat.le_refl 0
  | cons c s ih =>
    have one : 1 ≤ (escapeChar c).length := by
      unfold escapeChar
      split_ifs <;> simp
    rw [List.flatMap_cons, List.length_append, List.length_cons]
    omega

/-- **A text literal is read back**, whatever its text is and whatever follows it. -/
theorem readLiteral_textChars (s rest : List Char) :
    readLiteral (textChars s ++ rest) = some (s, rest) := by
  have shape : textChars s ++ rest = '\'' :: (s.flatMap escapeChar ++ '\'' :: rest) := by
    simp [textChars]
  rw [shape, readLiteral]
  refine readBody_flatMap s rest ?_
  -- escaping makes no text shorter, so the length of the literal is room enough
  have hlength := length_le_flatMap_escapeChar s
  rw [List.length_append]
  omega

example : readLiteral "'it\\'s', more".toList = some ("it's".toList, ", more".toList) := by
  decide +kernel

/-! ### Lines -/

/-- The characters that end a line of generated code. -/
def lineEnds : List Char := ['\n', '\r']

theorem notMem_escapeChar {d : Char} (hd : d ∈ lineEnds) (c : Char) : d ∉ escapeChar c := by
  have escape : ∀ d ∈ lineEnds, ∀ letter ∈ ['\\', '\'', 'n', 'r'], d ∉ ['\\', letter] := by
    simp [lineEnds]
  unfold escapeChar
  split_ifs with _ _ hfeed hreturn
  · exact escape d hd _ (by decide)
  · exact escape d hd _ (by decide)
  · exact escape d hd _ (by decide)
  · exact escape d hd _ (by decide)
  · rw [List.mem_singleton]
    rintro rfl
    have hend : d = '\n' ∨ d = '\r' := by simpa [lineEnds] using hd
    rcases hend with rfl | rfl
    · exact hfeed rfl
    · exact hreturn rfl

/-- **A text literal stays on its line.** -/
theorem notMem_textLiteral {d : Char} (hd : d ∈ lineEnds) (s : String) :
    d ∉ (textLiteral s).toList := by
  have hquote : d ≠ '\'' := by
    rintro rfl
    exact absurd hd (by decide)
  rw [textLiteral, String.toList_ofList, textChars]
  simp only [List.mem_append, List.mem_cons, List.mem_flatMap, not_or, not_exists, not_and]
  exact ⟨⟨hquote, fun c _ => notMem_escapeChar hd c⟩, hquote, by simp⟩

theorem newline_notMem_textLiteral (s : String) : '\n' ∉ (textLiteral s).toList :=
  notMem_textLiteral (by decide) s

/-! ### Literals as they stand -/

theorem readLiteral_textLiteral (s : String) (rest : List Char) :
    readLiteral ((textLiteral s).toList ++ rest) = some (s.toList, rest) := by
  rw [textLiteral, String.toList_ofList, readLiteral_textChars]

/-- Two literals in front of other text are the same if the two texts are. -/
theorem eq_of_textLiteral_append {s t : String} {rest more : List Char}
    (h : (textLiteral s).toList ++ rest = (textLiteral t).toList ++ more) : s = t ∧ rest = more := by
  have hread : readLiteral ((textLiteral s).toList ++ rest) = some (t.toList, more) := by
    rw [h, readLiteral_textLiteral]
  rw [readLiteral_textLiteral] at hread
  obtain ⟨hchars, hrest⟩ := Prod.mk.inj (Option.some.inj hread)
  exact ⟨String.toList_inj.mp hchars, hrest⟩

/-- **A text literal says where it ends**, whatever its text is. In front of any other text, reading
it takes the literal and nothing else, and gives its text; so no two texts have one literal. And no
text breaks the line that its literal is on. -/
theorem textLiteral_delimits_itself :
    (∀ (s : String) (rest : List Char),
      readLiteral ((textLiteral s).toList ++ rest) = some (s.toList, rest)) ∧
    Function.Injective textLiteral ∧
    ∀ s : String, '\n' ∉ (textLiteral s).toList ∧ '\r' ∉ (textLiteral s).toList := by
  refine ⟨readLiteral_textLiteral, fun s t h => ?_, fun s => ?_⟩
  · exact (eq_of_textLiteral_append (congrArg (String.toList · ++ []) h)).1
  · exact ⟨notMem_textLiteral (by decide) s, notMem_textLiteral (by decide) s⟩

end OperationCatalog.TypeScript
