import OperationCatalog.Main
import OperationCatalog.Proofs.Catalog.Offence
import OperationCatalog.Proofs.Command.Changes
import OperationCatalog.Proofs.Command.Configuration
import OperationCatalog.Proofs.Command.Spelling
import OperationCatalog.Proofs.GraphQL.Joining
import OperationCatalog.Proofs.Json.Rewriting
import OperationCatalog.Proofs.Json.Sharing
import OperationCatalog.Proofs.Metadata.Abandoned
import OperationCatalog.Proofs.Metadata.Dump
import OperationCatalog.Proofs.Metadata.Effort
import OperationCatalog.Proofs.Metadata.Merge
import OperationCatalog.Proofs.Metadata.Omission
import OperationCatalog.Proofs.Metadata.Order
import OperationCatalog.Proofs.Metadata.Patterns
import OperationCatalog.Proofs.Metadata.Refusal
import OperationCatalog.Proofs.TypeScript.Conformance
import OperationCatalog.Proofs.TypeScript.Extracted
import OperationCatalog.Proofs.TypeScript.Identifiers
import OperationCatalog.Proofs.TypeScript.Legible
import OperationCatalog.Proofs.TypeScript.Naming
import OperationCatalog.Proofs.TypeScript.Permutation
import OperationCatalog.Proofs.TypeScript.ValueFault
