import MappedSql.Mapper.DefinitionFile
import MappedSql.Mapper.Namespace
import MappedSql.Mapper.SettingsFile
import MappedSql.Proofs.Mapper.LoadOrder
import MappedSql.Proofs.Markup.ReadBack
import MappedSql.Proofs.Session.History
import MappedSql.Proofs.Session.StaleHits
import MappedSql.Proofs.Session.Transparency
import MappedSql.Proofs.Statement.ComposedOnce
import MappedSql.Proofs.Statement.Iteration
import MappedSql.Proofs.Statement.LastBind
import MappedSql.Proofs.Template.Inclusion
import MappedSql.Session.Caching
import MappedSql.Proofs.Mapper.DeclaredCaches
import MappedSql.Proofs.Cache.Accounts
import MappedSql.Proofs.Cache.Refusals
import MappedSql.Proofs.Template.Namespaces
import MappedSql.Proofs.Parameter.Signs
import MappedSql.Proofs.Statement.Escapes
import MappedSql.Proofs.Cache.Committing
import MappedSql.Proofs.Expression.Derivations
import MappedSql.Proofs.Expression.Navigation
import MappedSql.Proofs.Expression.Spelling
import MappedSql.Proofs.Parameter.Marking
import MappedSql.Proofs.Statement.SideTable
import MappedSql.Proofs.Template.Frames
import MappedSql.Proofs.Expression.Comparing
import MappedSql.Proofs.Mapper.Draining
import MappedSql.Proofs.Mapper.Lookup
import MappedSql.Proofs.Mapper.Declaring
import MappedSql.Proofs.Cache.Batches
import MappedSql.Proofs.Parameter.Attributes
import MappedSql.Proofs.Parameter.Properties
import MappedSql.Proofs.Cache.Places
import MappedSql.Proofs.Mapper.Names
