import ElmOverlay.Lens.Discovery
import ElmOverlay.Lens.Resolved
import ElmOverlay.Settings

/-!
The language server as a state and its requests. The state holds the last tree of every
document seen and one flag. Documents are read anew as a whole on every change; closing one
keeps its tree, so that counts stay those of the workspace. No request fails: what cannot be
answered is answered by nothing, or by the lens as it came.
-/
namespace ElmOverlay

/-- A reader of documents; it may find no tree in a text. -/
abbrev DocumentReader := String → Option Tree

structure Server where
  forest : Forest := .empty
  settings : Settings := {}

/-- What the editor says when it starts. -/
structure Initialization where
  root : Option Url := none
  folders : List Url := []
  options : Option Json := none

/-- The settings file below each local path. -/
abbrev SettingsFiles := List UInt8 → SettingsFile

namespace Server

def start : Server := ⟨.empty, {}⟩

/-- The folder whose settings count: the first one open, or else the root. -/
def workspaceFolder (i : Initialization) : Option Url := i.folders.head?.or i.root

/-- Settings that cannot be read count as the defaults. -/
def loadSettings (files : SettingsFiles) (i : Initialization) : Settings :=
  match (workspaceFolder i).bind Url.filePath? with
  | none => {}
  | some path =>
    match Settings.ofFile? (files path) with
    | .ok s => s
    | .error _ => {}

def negotiate (server : Server) (files : SettingsFiles) (i : Initialization) : Server :=
  let s := loadSettings files i
  { server with settings := (i.options.map s.withOptions).getD s }

/-- Keeps the tree of a document's text; a text without a tree drops the one before. -/
def update (server : Server) (read : DocumentReader) (uri : Url) (text : String) : Server :=
  let file := toString uri
  match read text with
  | some t => { server with forest := server.forest.insert file t }
  | none => { server with forest := server.forest.erase file }

/-- Changes give whole texts. The first one is read, the ones behind it are not. -/
def changeDocument (server : Server) (read : DocumentReader) (uri : Url)
    (changes : List String) : Server :=
  match changes with
  | [] => server
  | text :: _ => server.update read uri text

inductive Notice where
  | started (files : SettingsFiles) (i : Initialization)
  | ready
  | opened (uri : Url) (text : String)
  | changed (uri : Url) (texts : List String)
  | closed (uri : Url)

/-- The state after a notice. Closing a document changes nothing. -/
def notify (read : DocumentReader) (server : Server) : Notice → Server
  | .started files i => server.negotiate files i
  | .opened uri text => server.update read uri text
  | .changed uri texts => server.changeDocument read uri texts
  | .ready | .closed _ => server

def treeOf (server : Server) (uri : Url) : Option Tree := server.forest.get? (toString uri)

def foldingRanges (server : Server) (uri : Url) : Option (List Protocol.FoldingRange) :=
  (server.treeOf uri).map Protocol.foldingRanges

def codeLenses (server : Server) (uri : Url) : Option (List Protocol.CodeLens) :=
  (server.treeOf uri).map fun t =>
    (Discovery.lenses (toString uri) t).map (Placeholder.toCodeLens · t.source)

/-- The lens with its command; as it came if its payload or its file is of no use. -/
def resolveLens (server : Server) (lens : Protocol.CodeLens) : Protocol.CodeLens :=
  match Placeholder.ofPayload lens.data with
  | .error _ => lens
  | .ok p =>
    match p.resolve server.forest server.settings.canToggle with
    | .error _ => lens
    | .ok resolved => resolved.toCodeLens server.forest

/-- What the server offers: full texts on change, folds, and lenses that resolve later. -/
def offer : Json :=
  .obj [("capabilities", .obj [
      ("codeLensProvider", .obj [("resolveProvider", .bool true)]),
      ("foldingRangeProvider", .bool true),
      ("positionEncoding", .str "utf-16"),
      ("textDocumentSync", .int 1)]),
    ("serverInfo", .obj [("name", .str "elm-lens-lsp"), ("version", .str "0.1.0")])]

/-! ### Messages -/

inductive Request where
  | foldingRanges (uri : Url)
  | codeLenses (uri : Url)
  | resolveLens (lens : Protocol.CodeLens)
  | shutdown

inductive Reply where
  | nothing
  | offer (capabilities : Json)
  | foldingRanges (found : Option (List Protocol.FoldingRange))
  | codeLenses (found : Option (List Protocol.CodeLens))
  | lens (resolved : Protocol.CodeLens)

inductive Message where
  | notice (notice : Notice)
  | request (request : Request)

def answer (server : Server) : Request → Reply
  | .foldingRanges uri => .foldingRanges (server.foldingRanges uri)
  | .codeLenses uri => .codeLenses (server.codeLenses uri)
  | .resolveLens lens => .lens (server.resolveLens lens)
  | .shutdown => .nothing

/-- The start is answered by what the server offers; no other notice is answered. -/
def acknowledge : Notice → Reply
  | .started _ _ => .offer offer
  | .ready | .opened _ _ | .changed _ _ | .closed _ => .nothing

/-- One message: the state after it, and its reply. A request leaves the state as it is. -/
def handle (read : DocumentReader) (server : Server) : Message → Server × Reply
  | .notice n => (server.notify read n, acknowledge n)
  | .request r => (server, server.answer r)

/-- The state after a run from the start. -/
def after (read : DocumentReader) (messages : List Message) : Server :=
  messages.foldl (fun server m => (server.handle read m).1) start

end Server

end ElmOverlay
