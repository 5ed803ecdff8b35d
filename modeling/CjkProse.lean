import CjkProse.Config.File
import CjkProse.Format
import CjkProse.Arguments
import CjkProse.Command.Notes
import CjkProse.Command.Run
import CjkProse.Files.Tree
import CjkProse.Proofs.Reading.QuoteStack
import CjkProse.Proofs.Reading.Sentences
import CjkProse.Proofs.Reading.Recovery
import CjkProse.Proofs.Source.ContentStart
import CjkProse.Proofs.Report.Markup
import CjkProse.Proofs.Report.Ignored
import CjkProse.Proofs.Report.Confined
import CjkProse.Proofs.Report.Changed
import CjkProse.Proofs.Report.Off
import CjkProse.Proofs.Report.FrontMatter
import CjkProse.Proofs.Report.Positions
import CjkProse.Proofs.Rule.Settled
import CjkProse.Proofs.Rule.Quotes
import CjkProse.Proofs.Rule.QuoteStyles
import CjkProse.Proofs.Rule.PauseGaps
import CjkProse.Proofs.Rule.WrapperSpaces
import CjkProse.Proofs.Rule.WrapperDepth
import CjkProse.Proofs.Rule.Exceptions
import CjkProse.Proofs.Rule.Pairing
import CjkProse.Proofs.Rule.NormalForm
import CjkProse.Proofs.Command.Apart
import CjkProse.Proofs.Command.Reported
import CjkProse.Proofs.Command.Settings
import CjkProse.Proofs.Command.Patterns
