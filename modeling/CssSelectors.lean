import CssSelectors.Cursor.Tokens
import CssSelectors.Main
import CssSelectors.Proofs.Attributes
import CssSelectors.Proofs.Blame
import CssSelectors.Proofs.Bytes.Identifiers
import CssSelectors.Proofs.Bytes.Lossless
import CssSelectors.Proofs.Bytes.Quotations
import CssSelectors.Proofs.Caseless
import CssSelectors.Proofs.Cli.Dump
import CssSelectors.Proofs.Cli.Lines
import CssSelectors.Proofs.Combinators
import CssSelectors.Proofs.Consumption
import CssSelectors.Proofs.Cursor.Skipping
import CssSelectors.Proofs.Deduplication
import CssSelectors.Proofs.Displays
import CssSelectors.Proofs.Forgetting
import CssSelectors.Proofs.Grammar.Expectation
import CssSelectors.Proofs.Interleaving
import CssSelectors.Proofs.Iteration
import CssSelectors.Proofs.Joining
import CssSelectors.Proofs.Looking
import CssSelectors.Proofs.Malformed
import CssSelectors.Proofs.Notation
import CssSelectors.Proofs.Parser.Backtracking
import CssSelectors.Proofs.Parser.Plain
import CssSelectors.Proofs.Parser.Progress
import CssSelectors.Proofs.Rejection
import CssSelectors.Proofs.SameShapes
import CssSelectors.Proofs.Separation
import CssSelectors.Proofs.Speculation
import CssSelectors.Proofs.Suffix
import CssSelectors.Proofs.Tracing
import CssSelectors.Proofs.Transparency
import CssSelectors.Proofs.Validation
