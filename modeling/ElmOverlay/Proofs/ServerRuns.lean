import ElmOverlay.Server

/-!
Runs of the server. Whatever was asked, closed or said about other documents in between, a file
has the tree of the text that it was given last.
-/
namespace ElmOverlay.Server

/-- The document that a notice gives a text to, and the text. -/
def Notice.delivery? : Notice → Option (Url × String)
  | .opened uri text => some (uri, text)
  | .changed uri texts => texts.head?.map fun text => (uri, text)
  | .started _ _ | .ready | .closed _ => none

def Message.delivery? : Message → Option (Url × String)
  | .notice n => n.delivery?
  | .request _ => none

def Message.textFor? (file : FileId) (m : Message) : Option String :=
  (m.delivery?.filter fun d => toString d.1 = file).map Prod.snd

/-- The text that a run gives to a file last. -/
def lastText (messages : List Message) (file : FileId) : Option String :=
  (messages.filterMap (Message.textFor? file)).getLast?

variable {read : DocumentReader} {messages : List Message} {file : FileId}

theorem textFor?_eq_some {m : Message} {text : String} :
    m.textFor? file = some text ↔ ∃ uri, m.delivery? = some (uri, text) ∧ toString uri = file := by
  simp only [Message.textFor?, Option.map_eq_some_iff, Option.filter_eq_some_iff,
    decide_eq_true_eq]
  constructor
  · rintro ⟨⟨uri, _⟩, ⟨delivered, same⟩, rfl⟩
    exact ⟨uri, delivered, same⟩
  · rintro ⟨uri, delivered, same⟩
    exact ⟨(uri, text), ⟨delivered, same⟩, rfl⟩

theorem get?_update (server : Server) (uri : Url) (text : String) (file : FileId) :
    (server.update read uri text).forest.get? file =
      if file = toString uri then read text else server.forest.get? file := by
  unfold update
  cases parsed : read text with
  | none => exact Forest.get?_erase _ _ _
  | some t => exact Forest.get?_insert _ _ _ _

theorem get?_handle (server : Server) (m : Message) (file : FileId) :
    (server.handle read m).1.forest.get? file =
      ((m.textFor? file).map read).getD (server.forest.get? file) := by
  have given (uri : Url) (text : String) (delivered : m.delivery? = some (uri, text)) :
      (server.update read uri text).forest.get? file =
        ((m.textFor? file).map read).getD (server.forest.get? file) := by
    rw [get?_update, Message.textFor?, delivered]
    by_cases same : file = toString uri
    · simp [same, Option.filter]
    · simp [same, Ne.symm same, Option.filter]
  have kept (silent : m.delivery? = none) :
      server.forest.get? file = ((m.textFor? file).map read).getD (server.forest.get? file) := by
    rw [Message.textFor?, silent]
    rfl
  cases m with
  | request r => exact kept rfl
  | notice n =>
    cases n with
    | started files i => exact kept rfl
    | ready => exact kept rfl
    | closed uri => exact kept rfl
    | opened uri text => exact given uri text rfl
    | changed uri texts =>
      cases texts with
      | nil => exact kept rfl
      | cons text later => exact given uri text rfl

/-- What each step of a run either keeps or replaces is in the end what was put there last. -/
theorem observe_foldl {State Step Value : Type} (step : State → Step → State)
    (observe : State → Value) (write? : Step → Option Value)
    (one : ∀ s m, observe (step s m) = (write? m).getD (observe s)) (s : State)
    (steps : List Step) :
    observe (steps.foldl step s) = ((steps.filterMap write?).getLast?).getD (observe s) := by
  induction steps generalizing s with
  | nil => rfl
  | cons m steps ih =>
    rw [List.foldl_cons, ih, one, List.filterMap_cons]
    cases write? m with
    | none => rfl
    | some value =>
      rw [List.getLast?_cons]
      cases (steps.filterMap write?).getLast? <;> rfl

theorem get?_foldl (server : Server) (messages : List Message) (file : FileId) :
    (messages.foldl (fun server m => (server.handle read m).1) server).forest.get? file =
      ((lastText messages file).map read).getD (server.forest.get? file) := by
  rw [lastText, ← List.getLast?_map, List.map_filterMap]
  exact observe_foldl _ (fun server => server.forest.get? file) _
    (fun server m => get?_handle server m file) server messages

/-- After a run, a file has the tree of the text it was given last. -/
theorem get?_after (read : DocumentReader) (messages : List Message) (file : FileId) :
    (after read messages).forest.get? file = (lastText messages file).bind read := by
  rw [after, get?_foldl]
  cases lastText messages file <;> rfl

theorem exists_uri {text : String} (last : lastText messages file = some text) :
    ∃ m ∈ messages, ∃ uri, m.delivery? = some (uri, text) ∧ toString uri = file := by
  obtain ⟨m, inside, given⟩ := List.mem_filterMap.mp (List.mem_of_getLast? last)
  exact ⟨m, inside, textFor?_eq_some.mp given⟩

end ElmOverlay.Server
