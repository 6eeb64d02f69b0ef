import ElmOverlay.Proofs.Histories

/-!
Changes that arrive in one notice. A notice of several whole texts gives its document the tree of
the first of them, while the same texts in notices of their own give it that of the last. Both ways
end in one state exactly if these two texts have the same tree, as in a notice of one text.
-/
namespace ElmOverlay

namespace Server

/-- Each text in a notice of its own. -/
def oneByOne (uri : Url) (texts : List String) : List Message :=
  texts.map fun text => .notice (.changed uri [text])

variable {read : DocumentReader} {file : FileId}

theorem textFor?_changed (uri : Url) (texts : List String) (file : FileId) :
    (Message.notice (.changed uri texts)).textFor? file =
      if toString uri = file then texts.head? else none := by
  cases texts with
  | nil => simp [Message.textFor?, Message.delivery?, Notice.delivery?]
  | cons text later =>
    by_cases same : toString uri = file <;>
      simp [Message.textFor?, Message.delivery?, Notice.delivery?, Option.filter, same]

theorem lastText_changed (uri : Url) (texts : List String) (file : FileId) :
    lastText [.notice (.changed uri texts)] file =
      if toString uri = file then texts.head? else none := by
  rw [lastText, List.filterMap_cons, textFor?_changed]
  split
  next none => rw [none]; rfl
  next text some => rw [some]; rfl

theorem lastText_oneByOne (uri : Url) (texts : List String) (file : FileId) :
    lastText (oneByOne uri texts) file = if toString uri = file then texts.getLast? else none := by
  have given (text : String) : (Message.notice (.changed uri [text])).textFor? file =
      if toString uri = file then some text else none := textFor?_changed uri [text] file
  rw [lastText, oneByOne, List.filterMap_map]
  simp only [Function.comp_def, given]
  split
  · rw [List.filterMap_some]
  · simp

/-- Messages that give one document a text and leave the others alone. -/
theorem get?_after_append (read : DocumentReader) (run : List Message) {later : List Message}
    {uri : Url} {text? : Option String}
    (given : ∀ file, lastText later file = if toString uri = file then text? else none)
    (file : FileId) :
    (after read (run ++ later)).forest.get? file =
      if toString uri = file then (text?.map read).getD ((after read run).forest.get? file)
      else (after read run).forest.get? file := by
  rw [after_append, get?_foldl, given file]
  split <;> rfl

theorem canToggle_after_append (read : DocumentReader) (run : List Message) {later : List Message}
    (silent : later.filterMap Message.flag? = []) :
    (after read (run ++ later)).settings.canToggle = (after read run).settings.canToggle := by
  rw [canToggle_after, canToggle_after, lastFlag, List.filterMap_append, silent, List.append_nil,
    lastFlag]

/-- A notice of several texts counts as one of its first text. The same texts one by one count as
the last one, so that only a first and a last text with the same tree end in one state. -/
theorem batch_like_one_by_one_iff (read : DocumentReader) (run : List Message) (uri : Url)
    (texts : List String) :
    let before := after read run
    let batched := after read (run ++ [.notice (.changed uri texts)])
    let inTurn := after read (run ++ oneByOne uri texts)
    batched.treeOf uri = (texts.head?.map read).getD (before.treeOf uri) ∧
      inTurn.treeOf uri = (texts.getLast?.map read).getD (before.treeOf uri) ∧
      (batched = inTurn ↔ texts.head?.map read = texts.getLast?.map read) := by
  intro before batched inTurn
  have first := get?_after_append read run (lastText_changed uri texts)
  have last := get?_after_append read run (lastText_oneByOne uri texts)
  have ofFirst : batched.treeOf uri = (texts.head?.map read).getD (before.treeOf uri) :=
    (first (toString uri)).trans (if_pos rfl)
  have ofLast : inTurn.treeOf uri = (texts.getLast?.map read).getD (before.treeOf uri) :=
    (last (toString uri)).trans (if_pos rfl)
  refine ⟨ofFirst, ofLast, ?_⟩
  constructor
  · intro same
    have trees := congrArg (fun server => server.treeOf uri) same
    rw [ofFirst, ofLast] at trees
    cases texts with
    | nil => rfl
    | cons text later =>
      rw [List.head?_cons, List.getLast?_cons] at trees ⊢
      exact congrArg some trees
  · intro same
    apply eq_of_parts
    · apply Forest.eq_of_get?
      intro file
      rw [first, last, same]
    · have notices : (oneByOne uri texts).filterMap Message.flag? = [] := by
        simp [oneByOne, Message.flag?]
      rw [canToggle_after_append read run rfl, canToggle_after_append read run notices]

/-- A document whose last text has no tree keeps the tree of the text before it. -/
theorem batch_keeps_outdated_tree :
    let batched := after readLetter [.notice (.changed firstUrl ["x", "y"])]
    let inTurn := after readLetter (oneByOne firstUrl ["x", "y"])
    batched ≠ inTurn ∧ (batched.treeOf firstUrl).map Tree.size = some 2 ∧
      (inTurn.treeOf firstUrl).map Tree.size = none ∧ (readLetter "y").isNone := by
  intro batched inTurn
  have kept : (batched.treeOf firstUrl).map Tree.size = some 2 := by decide +kernel
  have dropped : (inTurn.treeOf firstUrl).map Tree.size = none := by decide +kernel
  refine ⟨?_, kept, dropped, by decide +kernel⟩
  intro same
  rw [same, dropped] at kept
  cases kept

end Server

end ElmOverlay
