import ElmOverlay.Proofs.Histories
import ElmOverlay.Proofs.LensReplies
import ElmOverlay.Proofs.PayloadForms

/-!
Commands that expose a name or hide it. The server sends them only while the flag of the last start
is on, only for lenses about exposure, and each in the direction that changes what the header of
the file says now.
-/
namespace ElmOverlay

open Elm Protocol

namespace Server

/-! ### What a start negotiates -/

variable {files : SettingsFiles} {i : Initialization} {messages : List Message} {b : Bool}

variable {server : Server} {lens : CodeLens}

end Server

end ElmOverlay
