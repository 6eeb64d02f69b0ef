import ElmOverlay.Proofs.Batches
import ElmOverlay.Proofs.CanonicalDefinitions
import ElmOverlay.Proofs.Cursor
import ElmOverlay.Proofs.DeclarationLenses
import ElmOverlay.Proofs.FoldOrder
import ElmOverlay.Proofs.FoldingRules
import ElmOverlay.Proofs.ForeignUses
import ElmOverlay.Proofs.Histories
import ElmOverlay.Proofs.ImportRuns
import ElmOverlay.Proofs.ImportedDefinitions
import ElmOverlay.Proofs.LeftmostPlaces
import ElmOverlay.Proofs.LensReplies
import ElmOverlay.Proofs.LensSubject
import ElmOverlay.Proofs.LocalEdits
import ElmOverlay.Proofs.LocalUses
import ElmOverlay.Proofs.LocatedTrees
import ElmOverlay.Proofs.ModuleUses
import ElmOverlay.Proofs.OffsetOrder
import ElmOverlay.Proofs.PayloadForms
import ElmOverlay.Proofs.PositionRoundTrip
import ElmOverlay.Proofs.ReferenceLens
import ElmOverlay.Proofs.ReferenceOrder
import ElmOverlay.Proofs.Refusals
import ElmOverlay.Proofs.Replay
import ElmOverlay.Proofs.StaleLenses
import ElmOverlay.Proofs.Subtrees
import ElmOverlay.Proofs.Toggles
import ElmOverlay.Proofs.TypeUses
