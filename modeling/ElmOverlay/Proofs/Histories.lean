import ElmOverlay.Proofs.ServerRuns
import ElmOverlay.Syntax.Builder

/-!
What the server keeps of its history: the last text of every document, and the flag of the last
start. Two runs that agree on these end in one state, so nothing else that happened in them
shows in a later reply.
-/
namespace ElmOverlay

namespace Server

/-- The flag that a start leaves: what the editor announces, or else what the settings say. -/
def Message.flag? : Message → Option Bool
  | .notice (.started files i) =>
    some ((i.options.bind Settings.announcedToggle).getD (loadSettings files i).canToggle)
  | .notice _ | .request _ => none

/-- The flag that the last start of a run leaves. -/
def lastFlag (messages : List Message) : Bool :=
  ((messages.filterMap Message.flag?).getLast?).getD false

variable {read : DocumentReader}

theorem canToggle_handle (server : Server) (m : Message) :
    (server.handle read m).1.settings.canToggle = m.flag?.getD server.settings.canToggle := by
  have kept (uri : Url) (text : String) :
      (server.update read uri text).settings = server.settings := by
    unfold update
    cases read text <;> rfl
  cases m with
  | request r => rfl
  | notice n =>
    cases n with
    | started files i =>
      rw [handle, notify, negotiate, Message.flag?, Option.getD_some]
      cases i.options <;> rfl
    | ready => rfl
    | closed uri => rfl
    | opened uri text => exact congrArg Settings.canToggle (kept uri text)
    | changed uri texts =>
      cases texts with
      | nil => rfl
      | cons text later => exact congrArg Settings.canToggle (kept uri text)

theorem canToggle_after (read : DocumentReader) (messages : List Message) :
    (after read messages).settings.canToggle = lastFlag messages :=
  observe_foldl _ (fun server => server.settings.canToggle) _ canToggle_handle start messages

/-- No text is ever given to a file whose name is not that of a document. -/
theorem lastText_ext {run other : List Message}
    (same : ∀ uri : Url, lastText run (toString uri) = lastText other (toString uri)) :
    lastText run = lastText other := by
  funext file
  by_cases document : ∃ uri : Url, toString uri = file
  · obtain ⟨uri, rfl⟩ := document
    exact same uri
  · have untold (messages : List Message) : lastText messages file = none := by
      rw [Option.eq_none_iff_forall_ne_some]
      intro text last
      obtain ⟨-, -, uri, -, name⟩ := exists_uri last
      exact document ⟨uri, name⟩
    rw [untold, untold]

/-- The state is the forest and the flag, and nothing else. -/
theorem eq_of_parts {a b : Server} (forest : a.forest = b.forest)
    (flag : a.settings.canToggle = b.settings.canToggle) : a = b := by
  obtain ⟨_, _⟩ := a
  obtain ⟨_, _⟩ := b
  cases forest
  exact congrArg (fun flag => Server.mk _ ⟨flag⟩) flag

theorem after_eq_of_agree {run other : List Message} (texts : lastText run = lastText other)
    (flags : lastFlag run = lastFlag other) : after read run = after read other := by
  apply eq_of_parts
  · apply Forest.eq_of_get?
    intro file
    rw [get?_after, get?_after, texts]
  · rw [canToggle_after, canToggle_after, flags]

theorem after_append (run later : List Message) :
    after read (run ++ later) =
      later.foldl (fun server m => (server.handle read m).1) (after read run) :=
  List.foldl_append

/-- Runs that agree on the last text of every document and on the flag of the last start cannot be
told apart. A document has a tree exactly if its last text has one, the forests are equal, and
every later request gets the same reply after both runs. -/
theorem replies_of_last_texts (read : DocumentReader) {run other : List Message}
    (texts : ∀ uri : Url, lastText run (toString uri) = lastText other (toString uri))
    (flags : lastFlag run = lastFlag other) :
    (∀ file, (after read run).forest.get? file = (lastText run file).bind read) ∧
      (after read run).forest = (after read other).forest ∧
      ∀ (later : List Message) (r : Request),
        (after read (run ++ later)).answer r = (after read (other ++ later)).answer r := by
  have state : after read run = after read other :=
    after_eq_of_agree (lastText_ext texts) flags
  refine ⟨get?_after read run, congrArg Server.forest state, ?_⟩
  intro later r
  rw [after_append, after_append, state]

/-- Finds a tree in the texts that have an `x`. -/
def readLetter : DocumentReader := fun text =>
  (Tree.build text [.openHere "file", .leaf "lower_case_identifier" "x", .close]).toOption

def firstUrl : Url := (Url.parse? "file:///first.elm").get (by decide +kernel)

def secondUrl : Url := (Url.parse? "file:///second.elm").get (by decide +kernel)

/-- The first document has no tree at first, is mended, looked at, and closed. -/
def mendedRun : List Message :=
  [.notice (.opened secondUrl "x"), .notice (.opened firstUrl "y"),
    .notice (.changed firstUrl ["1 x"]), .request (.codeLenses firstUrl),
    .notice (.closed firstUrl)]

def plainRun : List Message :=
  [.notice .ready, .notice (.opened firstUrl "1 x"), .notice (.opened secondUrl "x")]

theorem mended_run_like_plain_run :
    (∀ uri : Url, lastText mendedRun (toString uri) = lastText plainRun (toString uri)) ∧
      lastFlag mendedRun = lastFlag plainRun ∧
      ((after readLetter mendedRun).treeOf firstUrl).map Tree.size = some 2 ∧
      (after readLetter mendedRun).forest = (after readLetter plainRun).forest := by
  have texts (uri : Url) :
      lastText mendedRun (toString uri) = lastText plainRun (toString uri) := by
    have apart : toString firstUrl ≠ toString secondUrl := by decide +kernel
    simp only [lastText, mendedRun, plainRun, List.filterMap_cons, List.filterMap_nil,
      Message.textFor?, Message.delivery?, Notice.delivery?, List.head?_cons, Option.map_some,
      Option.map_none, Option.filter_some, Option.filter_none]
    by_cases first : toString firstUrl = toString uri
    · simp [← first, apart.symm]
    · simp [first]
  have flags : lastFlag mendedRun = lastFlag plainRun := by decide
  obtain ⟨trees, forests, -⟩ := replies_of_last_texts readLetter texts flags
  refine ⟨texts, flags, ?_, forests⟩
  rw [treeOf, trees]
  decide +kernel

end Server

end ElmOverlay
