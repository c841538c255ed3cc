import Scopemark.Main
import Scopemark.Proofs.Check.Counts
import Scopemark.Proofs.Check.ExitCode
import Scopemark.Proofs.Check.Matching
import Scopemark.Proofs.Check.Parallel
import Scopemark.Proofs.Check.Transparent
import Scopemark.Proofs.Except
import Scopemark.Proofs.Fixture.Header
import Scopemark.Proofs.Fixture.Lines
import Scopemark.Proofs.Fixture.Organization
import Scopemark.Proofs.Oracle.Cache
import Scopemark.Proofs.Oracle.Request
import Scopemark.Proofs.Oracle.Sharing
import Scopemark.Proofs.Pattern.Bounds
import Scopemark.Proofs.Pattern.Found
import Scopemark.Proofs.Pattern.Moves
import Scopemark.Proofs.Scope.Set
import Scopemark.Proofs.Token.Tiles
import Scopemark.Proofs.Tokenizer.Contest
import Scopemark.Proofs.Tokenizer.LineEnd
import Scopemark.Proofs.Tokenizer.Moments
import Scopemark.Proofs.Tokenizer.Pieces
import Scopemark.Proofs.Tokenizer.Positions
import Scopemark.Proofs.Tokenizer.Regions
import Scopemark.Proofs.Tokenizer.Rounds
import Scopemark.Proofs.Tokenizer.Scan
import Scopemark.Proofs.Text.Lines
import Scopemark.Proofs.Fixture.Draft
import Scopemark.Proofs.Fixture.RoundTrip
import Scopemark.Proofs.Grammar.Compile
import Scopemark.Proofs.Check.Endings
import Scopemark.Proofs.Tokenizer.Resume
import Scopemark.Proofs.Text.Offsets
import Scopemark.Proofs.Highlight.Block
import Scopemark.Proofs.Grammar.Parts
import Scopemark.Proofs.Grammar.Reached
import Scopemark.Proofs.Grammar.Depth
import Scopemark.Proofs.Grammar.Growth
import Scopemark.Proofs.Grammar.Table
import Scopemark.Proofs.KeyList
import Scopemark.Proofs.Json.Written
import Scopemark.Proofs.Json.Records
import Scopemark.Proofs.Grammar.Documents
import Scopemark.Proofs.Highlight.Override
import Scopemark.Proofs.Highlight.Layers
import Scopemark.Proofs.Check.Exact
import Scopemark.Proofs.Unicode.Case
import Scopemark.Proofs.Highlight.Source
import Scopemark.Proofs.Highlight.Resolve
import Scopemark.Proofs.Highlight.Languages
import Scopemark.Proofs.Grammar.Expansion
import Scopemark.Proofs.Tokenizer.Unfolding
import Scopemark.Proofs.Tokenizer.Captures
import Scopemark.Proofs.Check.Verdict
import Scopemark.Proofs.Fixture.Flaws
import Scopemark.Proofs.Fixture.FirstFlaw
import Scopemark.Proofs.Check.Tally
import Scopemark.Proofs.Check.Complete
import Scopemark.Proofs.Text.Cut
import Scopemark.Proofs.Files.Path
import Scopemark.Proofs.Files.Tree
import Scopemark.Proofs.Check.Discovery
import Scopemark.Proofs.Fixture.Positions
import Scopemark.Proofs.Fixture.Columns
import Scopemark.Proofs.Scope.Segments
import Scopemark.Proofs.Scope.History
import Scopemark.Proofs.Command.Arguments
import Scopemark.Proofs.Check.Listing
