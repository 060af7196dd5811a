import DocComment.Main
import DocComment.Proofs.Walk
import DocComment.Proofs.Contribution
import DocComment.Proofs.Conservation
import DocComment.Proofs.Stability
import DocComment.Proofs.Refusal
import DocComment.Proofs.Commands
import DocComment.Proofs.Sections
import DocComment.Proofs.Merge
import DocComment.Proofs.Lines
import DocComment.Proofs.Showing
import DocComment.Proofs.Leaves
import DocComment.Proofs.Marks
import DocComment.Proofs.Copies
import DocComment.Proofs.Rereading
import DocComment.Proofs.ListReading
import DocComment.Proofs.DirectiveReading
import DocComment.Proofs.HtmlReading
import DocComment.Proofs.Pairing
import DocComment.Proofs.Nesting
import DocComment.Proofs.InlineParts
import DocComment.Proofs.InlineReading
import DocComment.Proofs.Plain
import DocComment.Proofs.RoundTrip
import DocComment.Proofs.Listing
import DocComment.Proofs.Decoding
import DocComment.Proofs.Batch
import DocComment.Proofs.Serialization
import DocComment.Proofs.Conversion
import DocComment.Proofs.Extension
import DocComment.Proofs.Blanks
import DocComment.Proofs.TagNames
import DocComment.Proofs.NameRanges
import DocComment.Proofs.Outlines
import DocComment.Proofs.Records
import DocComment.Proofs.Comments
import DocComment.Proofs.LineEndings
import DocComment.Proofs.CommandLines
import DocComment.Proofs.Braces
import DocComment.Proofs.RenderedBraces
import DocComment.Proofs.BlockRules
import DocComment.Proofs.AbstractRuns
import DocComment.Proofs.Ranges
import DocComment.Proofs.Tallies
import DocComment.Proofs.Numerals
import DocComment.Proofs.Layout
