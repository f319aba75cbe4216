import LayeredSql.Codec.Fingerprint
import LayeredSql.Decimal.Reader
import LayeredSql.Files.Directory
import LayeredSql.Main
import LayeredSql.Proofs.Build.Agreement
import LayeredSql.Proofs.Build.Grouping
import LayeredSql.Proofs.Build.JoinNames
import LayeredSql.Proofs.Build.WindowNesting
import LayeredSql.Proofs.Codec.Canonical
import LayeredSql.Proofs.Codec.Fingerprint
import LayeredSql.Proofs.Relation.Inlining
import LayeredSql.Proofs.Sql.Backslash
import LayeredSql.Proofs.Sql.Unambiguous
import LayeredSql.Proofs.Build.FirstFailure
import LayeredSql.Proofs.Build.Shape
import LayeredSql.Proofs.Build.WindowSwitch
import LayeredSql.Proofs.Build.Ungrouping
import LayeredSql.Proofs.Relation.Arrangement
import LayeredSql.Proofs.Relation.ProjectedOrder
import LayeredSql.Proofs.Relation.KnownColumns
import LayeredSql.Proofs.Expr.NormalForm
import LayeredSql.Proofs.Relation.FoldedFilter
import LayeredSql.Proofs.Command.Printed
import LayeredSql.Proofs.Settings.Precedence
import LayeredSql.Proofs.Build.Prefixes
import LayeredSql.Proofs.Build.SetOperation
import LayeredSql.Proofs.Build.WindowInlining
import LayeredSql.Proofs.Relation.NullTest
import LayeredSql.Proofs.Build.Renaming
import LayeredSql.Proofs.Build.JoinSymmetry
import LayeredSql.Proofs.Function.Run
import LayeredSql.Proofs.Command.Grammar
import LayeredSql.Proofs.Names.Repeated
