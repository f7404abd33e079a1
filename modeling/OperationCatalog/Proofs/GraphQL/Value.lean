import OperationCatalog.Proofs.GraphQL.Parser
import OperationCatalog.Proofs.Json.Number
import OperationCatalog.Proofs.Value

/-!
# Values of literals

The literals of a text stand for trees without bytes, dates and constants, and without integers that
are too long to be written (`OperationCatalog.GraphQL.Literal.Lexical.tree_value`). An integer of
too many digits stands for a number that is none, and the digits of all others are digits.
-/

namespace OperationCatalog.GraphQL

/-! ### Numbers -/

/-- **The integer that an integer is read as** can be written. -/
theorem isWritable_of_intOf? {text : String} (h : IsInteger text) {i : Int}
    (hi : intOf? text = some i) : Decimal.isWritable i = true := by
  unfold intOf? at hi
  dsimp only at hi
  split at hi
  · rename_i hlength
    cases hi
    exact Json.isWritable_of_digits h hlength _
  · simp at hi

/-! ### All literals -/

theorem itemValues_eq_map (items : List Literal) : itemValues items = items.map Literal.value := by
  induction items with
  | nil => rfl
  | cons item rest ih => rw [itemValues, ih, List.map_cons]

theorem fieldValues_eq_map (fields : List (String × Literal)) :
    fieldValues fields = fields.map fun field => (.str field.1, field.2.value) := by
  induction fields with
  | nil => rfl
  | cons field rest ih => rw [fieldValues, ih, List.map_cons]

/-- **A lexical literal** stands for a tree of scalars that literals can stand for. -/
theorem Literal.Lexical.tree_value {l : Literal} (h : l.Lexical) :
    l.value.Tree Scalar.Literal := by
  induction h with
  | @int text h =>
    rw [Literal.value]
    split
    · rename_i i hi
      exact .scalar ⟨isWritable_of_intOf? h hi, rfl⟩
    · exact .scalar ⟨trivial, rfl⟩
  | list _ ih =>
    rw [Literal.value, itemValues_eq_map]
    refine .list fun v hv => ?_
    obtain ⟨item, hitem, rfl⟩ := List.mem_map.mp hv
    exact ih item hitem
  | object _ ih =>
    rw [Literal.value, fieldValues_eq_map]
    refine Value.tree_ofEntries (fun entry hentry => ?_) fun entry hentry => ?_
    · obtain ⟨field, -, rfl⟩ := List.mem_map.mp hentry
      exact ⟨field.1, rfl⟩
    · obtain ⟨field, hfield, rfl⟩ := List.mem_map.mp hentry
      exact ih field hfield
  | variableName _ | float _ | string _ | bool _ | null | enum _ =>
    rw [Literal.value]
    exact .scalar ⟨trivial, rfl⟩

/-- A lexical literal stands for a tree of plain scalars. -/
theorem Literal.Lexical.plain_value {l : Literal} (h : l.Lexical) : l.value.Tree Scalar.Plain :=
  h.tree_value.mono fun _ hs => hs.1

end OperationCatalog.GraphQL
