import Mustache.ByteCursor
import Mustache.Main
import Mustache.Proofs.Concatenation
import Mustache.Proofs.HostAnswers
import Mustache.Proofs.OverfullBlock
import Mustache.Proofs.Progress
import Mustache.Proofs.Restoring
import Mustache.Proofs.SafeRuns
import Mustache.Proofs.SmallSteps
import Mustache.Proofs.Termination
import Mustache.Proofs.HostsInStep
import Mustache.Proofs.Renderer
import Mustache.Proofs.EscapedText
import Mustache.Proofs.Escaping
import Mustache.Proofs.CarriageReturns
import Mustache.Proofs.FailurePositions
import Mustache.Proofs.Entries
import Mustache.Proofs.FreeText
import Mustache.Proofs.TagForms
import Mustache.Proofs.LineEndings
import Mustache.Proofs.ByteOffsets
import Mustache.Proofs.CheckedCursor
import Mustache.Proofs.CheckedTags
import Mustache.Proofs.CheckedReading
import Mustache.Proofs.CheckedRuns
import Mustache.Proofs.DepthLimit
import Mustache.Proofs.FailingTags
import Mustache.Proofs.Overflows
import Mustache.Proofs.TagPositions
import Mustache.Proofs.UntaggedText
import Mustache.Proofs.Indentation
import Mustache.Proofs.PartialPaths
import Mustache.Proofs.InterchangeableHosts
import Mustache.Proofs.Arguments
import Mustache.Proofs.Carets
import Mustache.Proofs.LastingErrors
import Mustache.Proofs.ListedCode
import Mustache.Proofs.Assembly
import Mustache.Proofs.Unescaping
import Mustache.Proofs.LinesAndColumns
import Mustache.Proofs.KeptHosts
