import SqlMapping.Database.FaultClass
import SqlMapping.Declaration.Catalog
import SqlMapping.Proofs.Compilation.Resolution
import SqlMapping.Proofs.Entity.Accessors
import SqlMapping.Proofs.Entity.Strategies
import SqlMapping.Proofs.Query.Decoding
import SqlMapping.Proofs.Statement.Alignment
import SqlMapping.Proofs.Statement.Keywords
import SqlMapping.Schema.Explicit
import SqlMapping.Session.Run
import SqlMapping.Settings.EnvironmentFile
import SqlMapping.Value.Json
import SqlMapping.Proofs.Database.Holdings
import SqlMapping.Proofs.Database.Release
import SqlMapping.Proofs.Database.ReadPaths
import SqlMapping.Proofs.Entity.Operations
import SqlMapping.Proofs.Entity.Changes
import SqlMapping.Proofs.Entity.Writing
import SqlMapping.Proofs.Session.Holding
import SqlMapping.Proofs.Session.Writing
import SqlMapping.Proofs.Session.DeclarationOrder
import SqlMapping.Proofs.Session.Targets
import SqlMapping.Proofs.Schema.Requirements
import SqlMapping.Proofs.Schema.WellFormed
import SqlMapping.Proofs.Schema.Acceptance
import SqlMapping.Proofs.Compilation.Types
import SqlMapping.Proofs.Entity.Declared
import SqlMapping.Proofs.Entity.PatchedColumns
import SqlMapping.Proofs.Query.Expansion
import SqlMapping.Proofs.Query.Casts
import SqlMapping.Proofs.Query.Naming
import SqlMapping.Proofs.Query.Rendering
import SqlMapping.Proofs.Query.Quantifiers
import SqlMapping.Proofs.Query.Entries
import SqlMapping.Proofs.Entity.InsertTrace
import SqlMapping.Proofs.Compilation.PatchAcceptance
import SqlMapping.Proofs.Compilation.Reordering
import SqlMapping.Proofs.Compilation.Coverage
import SqlMapping.Proofs.Compilation.Catalog
import SqlMapping.Proofs.Query.Quoting
