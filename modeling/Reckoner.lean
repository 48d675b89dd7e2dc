import Reckoner.CommandLine.Run
import Reckoner.Document
import Reckoner.Main
import Reckoner.Proofs.Applications
import Reckoner.Proofs.BlankInsertion
import Reckoner.Proofs.ComplaintLines
import Reckoner.Proofs.Decompilation
import Reckoner.Proofs.DepthBounds
import Reckoner.Proofs.DocumentRoundTrip
import Reckoner.Proofs.ErrorPlace
import Reckoner.Proofs.ExactValue
import Reckoner.Proofs.FaithfulRendering
import Reckoner.Proofs.ForeignLeaves
import Reckoner.Proofs.HostAgreement
import Reckoner.Proofs.LineIndependence
import Reckoner.Proofs.LiteralConversion
import Reckoner.Proofs.MeasuredHeight
import Reckoner.Proofs.NestingDepth
import Reckoner.Proofs.OnePassEvaluation
import Reckoner.Proofs.OperandSigns
import Reckoner.Proofs.ParserImage
import Reckoner.Proofs.ProgramFaults
import Reckoner.Proofs.RunEndings
import Reckoner.Proofs.ServiceAnswers
import Reckoner.Proofs.StackPeak
import Reckoner.Proofs.SuppliedArguments
import Reckoner.Proofs.TruncatedDivision
import Reckoner.Proofs.WordInvariant
import Reckoner.Service.Answer
import Reckoner.Session
