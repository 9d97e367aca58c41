import AqlPipeline.Expr.Build
import AqlPipeline.Expr.Decode
import AqlPipeline.Expr.Encode
import AqlPipeline.FileTree
import AqlPipeline.Main
import AqlPipeline.Proofs.Expr.Children
import AqlPipeline.Proofs.Expr.Filled
import AqlPipeline.Proofs.Expr.Joining
import AqlPipeline.Proofs.Expr.ReadBack
import AqlPipeline.Proofs.FormatString.Parsing
import AqlPipeline.Proofs.Query.AnySettings
import AqlPipeline.Proofs.Query.BindReferences
import AqlPipeline.Proofs.Query.Brackets
import AqlPipeline.Proofs.Query.CallVisits
import AqlPipeline.Proofs.Query.Comments
import AqlPipeline.Proofs.Query.DefaultReturn
import AqlPipeline.Proofs.Query.DiscardedSpans
import AqlPipeline.Proofs.Query.EscapingErrors
import AqlPipeline.Proofs.Query.HandlerVisits
import AqlPipeline.Proofs.Query.Indentation
import AqlPipeline.Proofs.Query.InterpolatedStrings
import AqlPipeline.Proofs.Query.LateForms
import AqlPipeline.Proofs.Query.Layouts
import AqlPipeline.Proofs.Query.Markers
import AqlPipeline.Proofs.Query.OperatorGrouping
import AqlPipeline.Proofs.Query.PatchedSpans
import AqlPipeline.Proofs.Query.PathSpans
import AqlPipeline.Proofs.Query.PipelineText
import AqlPipeline.Proofs.Query.PrefixPatterns
import AqlPipeline.Proofs.Query.ProtectedConstants
import AqlPipeline.Proofs.Query.SkippedRows
import AqlPipeline.Proofs.Query.StageNames
import AqlPipeline.Proofs.Query.StringOperands
import AqlPipeline.Proofs.Query.VisitStarts
import AqlPipeline.Proofs.Writer.Recovery
import AqlPipeline.Query
