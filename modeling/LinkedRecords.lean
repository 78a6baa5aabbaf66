import LinkedRecords.Compile.Walk
import LinkedRecords.Proofs.Distinct
import LinkedRecords.Proofs.Fallible
import LinkedRecords.Proofs.Schema
import LinkedRecords.Proofs.SchemaIndex
import LinkedRecords.Schema.Document
import LinkedRecords.SettingsFile
import LinkedRecords.Sql.DialectDocument
import LinkedRecords.Validation
import LinkedRecords.Proofs.Compile.Walk
import LinkedRecords.Proofs.Compile.AttachedFields
import LinkedRecords.Proofs.Compile.AttachedIndex
import LinkedRecords.Proofs.Compile.Assembly
import LinkedRecords.Proofs.Compile.Fragments
import LinkedRecords.Proofs.Compile.Accounting
import LinkedRecords.Proofs.Registry
import LinkedRecords.Proofs.Validation
import LinkedRecords.Proofs.Sql.Joins
import LinkedRecords.Proofs.Sql.Grouping
import LinkedRecords.Proofs.Compile.Links
import LinkedRecords.Proofs.Compile.Rows
import LinkedRecords.Proofs.Compile.ForeignRecords
import LinkedRecords.Proofs.Compile.LinkValues
import LinkedRecords.Proofs.Compile.Values
import LinkedRecords.Proofs.Compile.ColumnNames
import LinkedRecords.Proofs.SymmetricPairs
import LinkedRecords.Proofs.Compile.Scoping
import LinkedRecords.Proofs.Compile.FieldOrder
import LinkedRecords.Proofs.Compile.DeletedTables
import LinkedRecords.Proofs.Compile.Failures
import LinkedRecords.Proofs.Sql.Lexing
import LinkedRecords.Proofs.Sql.Rendering
import LinkedRecords.Proofs.Compile.StrictGrouping
import LinkedRecords.Proofs.RegistryHistory
import LinkedRecords.Proofs.SchemaDocuments
import LinkedRecords.Proofs.Sql.Dialects
import LinkedRecords.Proofs.Compile.Dialects
import LinkedRecords.Proofs.LinkTables
import LinkedRecords.Proofs.HierarchyPairs
import LinkedRecords.Proofs.OwnerConflicts
import LinkedRecords.Proofs.Sql.Precedence
import LinkedRecords.Proofs.Compile.JsonColumns
import LinkedRecords.Proofs.Compile.ReadFields
import LinkedRecords.Proofs.Compile.ObjectKeys
import LinkedRecords.Proofs.FieldKinds
