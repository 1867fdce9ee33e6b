import StackDepth.Host.FileTree
import StackDepth.Listing.Sketch
import StackDepth.Main
import StackDepth.Measurement.Codec
import StackDepth.Proofs.Budget
import StackDepth.Proofs.CallForest
import StackDepth.Proofs.FewerCalls
import StackDepth.Proofs.HintPrefix
import StackDepth.Proofs.ListingOrder
import StackDepth.Proofs.PathIndependence
import StackDepth.Proofs.Recursion
import StackDepth.Proofs.TraceTotal
import StackDepth.Proofs.WorstCase
import StackDepth.Routine.Codec
import StackDepth.Proofs.HintSet
import StackDepth.Proofs.LongerListing
import StackDepth.Proofs.LinePattern
import StackDepth.Proofs.Numerals
import StackDepth.Proofs.LineByLine
import StackDepth.Proofs.ActionLine
import StackDepth.Proofs.SketchListing
import StackDepth.Proofs.DirectCalls
import StackDepth.Proofs.InstructionLine
import StackDepth.Proofs.Utf8
import StackDepth.Proofs.JsonScalar
import StackDepth.Proofs.ListingBytes
import StackDepth.Proofs.JsonShape
import StackDepth.Proofs.JsonRoundTrip
import StackDepth.Proofs.Classification
import StackDepth.Proofs.DecodedText
import StackDepth.Proofs.ReportText
import StackDepth.Proofs.PlanRun
import StackDepth.Proofs.ReportSink
import StackDepth.Proofs.ToolOutput
import StackDepth.Proofs.ReportLines
import StackDepth.Proofs.JsonGrammar
import StackDepth.Proofs.JsonSkim
import StackDepth.Proofs.JsonReading
import StackDepth.Proofs.JsonMembers
import StackDepth.Proofs.PlanDocument
import StackDepth.Proofs.DroppedBranches
import StackDepth.Proofs.HintWarnings
import StackDepth.Proofs.AnalysisReads
