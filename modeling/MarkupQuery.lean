import MarkupQuery.Main
import MarkupQuery.Proofs.Selector.Routes
import MarkupQuery.Proofs.Selector.Printing
import MarkupQuery.Proofs.Selector.Levels
import MarkupQuery.Proofs.Selector.Lists
import MarkupQuery.Proofs.Selector.Sessions
import MarkupQuery.Proofs.Tree.Kinds
import MarkupQuery.Proofs.Selector.Positions
import MarkupQuery.Proofs.Selector.Reprinting
import MarkupQuery.Proofs.Report.Paths
import MarkupQuery.Proofs.Selector.Recency
import MarkupQuery.Proofs.Html.RoundTrip
import MarkupQuery.Proofs.Selector.FirstFound
import MarkupQuery.Proofs.Selector.Scope
import MarkupQuery.Proofs.Selector.Descents
import MarkupQuery.Proofs.Selector.Subtrees
import MarkupQuery.Proofs.Selector.PrintedPlans
import MarkupQuery.Proofs.Html.Layouts
import MarkupQuery.Proofs.Tree.Appending
import MarkupQuery.Proofs.Html.CodeTexts
import MarkupQuery.Proofs.Report.HyphenatedPaths
import MarkupQuery.Proofs.Selector.Targets
import MarkupQuery.Proofs.Selector.PlanErrors
import MarkupQuery.Proofs.Selector.CacheSizes
import MarkupQuery.Proofs.Selector.PositionalTests
import MarkupQuery.Proofs.Selector.Strengthening
import MarkupQuery.Proofs.Selector.NameTests
import MarkupQuery.Proofs.Report.SortedAttributes
import MarkupQuery.Proofs.Tree.Programs
import MarkupQuery.Proofs.Tree.Traces
import MarkupQuery.Proofs.Html.Depths
import MarkupQuery.Proofs.Html.WrittenContent
import MarkupQuery.Proofs.Selector.DocumentRoot
import MarkupQuery.Proofs.WarningRuns
import MarkupQuery.Proofs.Html.StartTags
import MarkupQuery.Proofs.Selector.CursorProgress
