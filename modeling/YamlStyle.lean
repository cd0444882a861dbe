import YamlStyle.Host.Folder
import YamlStyle.Main
import YamlStyle.Proofs.Lexeme.Balance
import YamlStyle.Proofs.Tree.Address
import YamlStyle.Proofs.Tree.Growth
import YamlStyle.Proofs.Lexeme.Ordered
import YamlStyle.Proofs.Stream.Pages
import YamlStyle.Proofs.Lint.Directives
import YamlStyle.Proofs.Lint.Emissions
import YamlStyle.Proofs.Lint.Sifting
import YamlStyle.Proofs.Yaml.Marks
import YamlStyle.Proofs.Yaml.Ensures
import YamlStyle.Proofs.Yaml.ScanSteps
import YamlStyle.Proofs.Yaml.Layout
import YamlStyle.Proofs.Yaml.PendingKeys
import YamlStyle.Proofs.Yaml.Scanning
import YamlStyle.Proofs.Yaml.Arrivals
import YamlStyle.Proofs.Yaml.Fetching
import YamlStyle.Proofs.Yaml.Scanned
import YamlStyle.Proofs.Yaml.Grammar
import YamlStyle.Proofs.Lexeme.Complete
import YamlStyle.Proofs.Lexeme.Depth
import YamlStyle.Proofs.Lexeme.Shown
import YamlStyle.Proofs.Lexeme.BlockEnds
import YamlStyle.Proofs.Lexeme.Agreement
import YamlStyle.Proofs.Lint.Order
import YamlStyle.Proofs.Lint.Independence
import YamlStyle.Proofs.Lint.Tolerance
import YamlStyle.Proofs.Lint.Splicing
import YamlStyle.Proofs.Lint.Strays
import YamlStyle.Proofs.Stream.Interleaving
import YamlStyle.Proofs.Lint.DisabledLines
import YamlStyle.Proofs.Lint.Trips
import YamlStyle.Proofs.Path.Pattern
import YamlStyle.Proofs.Lint.Echo
import YamlStyle.Proofs.Text.Detection
import YamlStyle.Proofs.Text.Partition
import YamlStyle.Proofs.Lint.Pointing
import YamlStyle.Proofs.Rule.Indentation.Levels
import YamlStyle.Proofs.Rule.Indentation.Block
import YamlStyle.Proofs.Rule.Indentation.Inference
import YamlStyle.Proofs.Rule.Indentation.ExplicitKeys
import YamlStyle.Proofs.Config.Merging
import YamlStyle.Proofs.Config.Overriding
import YamlStyle.Proofs.Config.Accepted
import YamlStyle.Proofs.Config.Schemas
import YamlStyle.Proofs.Config.Entries
import YamlStyle.Proofs.Config.Switches
import YamlStyle.Proofs.Lexeme.Spelling
import YamlStyle.Proofs.Report
import YamlStyle.Proofs.Rule.Phrasing
import YamlStyle.Proofs.Lint.Phrasing
import YamlStyle.Proofs.Tree.Resuming
import YamlStyle.Proofs.Rule.Keys.Nesting
import YamlStyle.Proofs.Rule.Keys.Duplicates
import YamlStyle.Proofs.Rule.Keys.Ordering
import YamlStyle.Proofs.Rule.Anchors.Unused
import YamlStyle.Proofs.Rule.Quotes.Unquoting
import YamlStyle.Proofs.Rule.Indentation.Scalars
import YamlStyle.Proofs.Rule.EmptyLines
import YamlStyle.Proofs.Stream.Comments
import YamlStyle.Proofs.Lint.Grammar
