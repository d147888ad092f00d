import ClipSplice.Config
import ClipSplice.Proofs.AnchoredPatterns
import ClipSplice.Proofs.BareGlobs
import ClipSplice.Proofs.BlamedConstructs
import ClipSplice.Proofs.BracketGlobs
import ClipSplice.Proofs.ComparisonRanges
import ClipSplice.Proofs.CompleteFrames
import ClipSplice.Proofs.ConditionBuilders
import ClipSplice.Proofs.CutFrames
import ClipSplice.Proofs.DateTemplates
import ClipSplice.Proofs.EndCorrection
import ClipSplice.Proofs.EscapedLiterals
import ClipSplice.Proofs.FrameSearch
import ClipSplice.Proofs.FrameStream
import ClipSplice.Proofs.HeadChunks
import ClipSplice.Proofs.HeaderArithmetic
import ClipSplice.Proofs.LibraryPaths
import ClipSplice.Proofs.OwnTags
import ClipSplice.Proofs.RestoredRule
import ClipSplice.Proofs.RuleFileRun
import ClipSplice.Proofs.RuleReading
import ClipSplice.Proofs.SplicedParams
import ClipSplice.Proofs.StatedBounds
import ClipSplice.Proofs.TemplateExpansion
import ClipSplice.Proofs.ToolOutput
