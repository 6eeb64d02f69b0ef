import ElmOverlay.Proofs.Payload
import ElmOverlay.Proofs.ReferenceSearch
import ElmOverlay.Proofs.ServerRuns

/-!
Replies about lenses. A lens is sent out without a command and comes back for one, perhaps after
its file has changed or has lost its tree. Whatever comes back is answered: with a command, if its
payload can be read and names a file that has a tree now, and as it came otherwise.
-/
namespace ElmOverlay

open Protocol

theorem Discovery.file_of_mem_lenses {file : FileId} {t : Tree} {p : Placeholder}
    (found : p ∈ lenses file t) : p.file = file := by
  simp only [lenses, exposureLenses, referenceLenses, List.mem_append, List.mem_filterMap,
    Option.mem_toList, or_assoc] at found
  rcases found with ⟨n, -, h⟩ | ⟨n, -, h⟩ | ⟨n, -, h⟩ | h
  · unfold exposureLens at h
    split at h
    next => cases h; rfl
    next =>
      obtain ⟨name, -, rfl⟩ := Option.map_eq_some_iff.mp h
      rfl
  · obtain ⟨name, -, rfl⟩ := Option.map_eq_some_iff.mp h
    rfl
  · obtain ⟨name, -, rfl⟩ := Option.map_eq_some_iff.mp h
    rfl
  · obtain ⟨qid, -, rfl⟩ := Option.map_eq_some_iff.mp h
    rfl

namespace Server

/-- A lens that gets no command: it has no payload, or one that cannot be read, or its file has no
tree. -/
inductive Unresolvable (forest : Forest) (lens : CodeLens) : Prop
  | bare (absent : lens.data = none)
  | malformed {v : Json} (data : lens.data = some v) (unread : Placeholder.ofJson? v = none)
  | treeless {v : Json} {p : Placeholder} (data : lens.data = some v)
      (reads : Placeholder.ofJson? v = some p) (missing : forest.get? p.file = none)

/-- From a lens that came back to the reply. -/
inductive ReplyRoute (server : Server) (lens reply : CodeLens) : Prop
  | unchanged (stuck : Unresolvable server.forest lens) (same : reply = lens)
  | resolved {p : Placeholder} {t : Tree} (payload : Placeholder.ofPayload lens.data = .ok p)
      (found : server.forest.get? p.file = some t)
      (shown : reply =
        (p.resolveIn server.forest t server.settings.canToggle).toCodeLens server.forest)

variable {server : Server} {lens : CodeLens}

theorem resolveLens_eq {p : Placeholder} {t : Tree}
    (payload : Placeholder.ofPayload lens.data = .ok p)
    (found : server.forest.get? p.file = some t) : server.resolveLens lens =
      (p.resolveIn server.forest t server.settings.canToggle).toCodeLens server.forest := by
  simp only [resolveLens, payload, Placeholder.resolve, found]

theorem resolveLens_route (server : Server) (lens : CodeLens) :
    server.ReplyRoute lens (server.resolveLens lens) := by
  cases data : lens.data with
  | none => exact .unchanged (.bare data) (by simp [resolveLens, data, Placeholder.ofPayload])
  | some v =>
    cases reads : Placeholder.ofJson? v with
    | none =>
      refine .unchanged (.malformed data reads) ?_
      simp [resolveLens, data, Placeholder.ofPayload, reads]
    | some p =>
      have payload : Placeholder.ofPayload lens.data = .ok p := by
        rw [data, Placeholder.ofPayload, reads]
      cases found : server.forest.get? p.file with
      | none =>
        refine .unchanged (.treeless data reads found) ?_
        simp [resolveLens, payload, Placeholder.resolve, found]
      | some t => exact .resolved payload found (resolveLens_eq payload found)

theorem not_unresolvable {forest : Forest} {p : Placeholder} {t : Tree}
    (payload : Placeholder.ofPayload lens.data = .ok p) (found : forest.get? p.file = some t) :
    ¬ Unresolvable forest lens := by
  rintro (absent | ⟨data, unread⟩ | ⟨data, reads, missing⟩)
  · rw [absent] at payload
    cases payload
  · rw [data, Placeholder.ofPayload, unread] at payload
    cases payload
  · rw [data, Placeholder.ofPayload, reads] at payload
    cases payload
    cases found.symm.trans missing

/-- A reply with a command has no payload any more, so only a lens that gets none can come back
as it was. -/
theorem resolveLens_eq_self_iff :
    server.resolveLens lens = lens ↔ Unresolvable server.forest lens := by
  cases resolveLens_route server lens with
  | unchanged stuck same => exact iff_of_true same stuck
  | @resolved p t payload found shown =>
    refine iff_of_false ?_ (not_unresolvable payload found)
    intro same
    have spent : lens.data = none := by
      rw [← same, shown]
      rfl
    rw [spent] at payload
    cases payload

theorem exists_placeholder (resolvable : ¬ Unresolvable server.forest lens) :
    ∃ p t, Placeholder.ofPayload lens.data = .ok p ∧ server.forest.get? p.file = some t := by
  cases resolveLens_route server lens with
  | unchanged stuck same => exact absurd stuck resolvable
  | @resolved p t payload found shown => exact ⟨p, t, payload, found⟩

theorem command_of_resolvable (resolvable : ¬ Unresolvable server.forest lens) :
    (∃ command, (server.resolveLens lens).command = some command) ∧
      (server.resolveLens lens).data = none := by
  obtain ⟨p, t, payload, found⟩ := exists_placeholder resolvable
  rw [resolveLens_eq payload found]
  exact ⟨⟨_, rfl⟩, rfl⟩

/-- The reply to a lens that gets a command reads nothing but the payload, the forest and the
flag. -/
theorem resolveLens_congr (resolvable : ¬ Unresolvable server.forest lens) {other : Server}
    {twin : CodeLens} (data : twin.data = lens.data) (forest : other.forest = server.forest)
    (flag : other.settings.canToggle = server.settings.canToggle) :
    other.resolveLens twin = server.resolveLens lens := by
  obtain ⟨p, t, payload, found⟩ := exists_placeholder resolvable
  rw [resolveLens_eq payload found, resolveLens_eq (data ▸ payload) (forest ▸ found), forest, flag]

/-- A lens of a file gets a command in every state in which the file has a tree. -/
theorem command_of_listed {uri : Url} {s : Source} {p : Placeholder} (file : p.file = toString uri)
    (present : server.treeOf uri ≠ none) :
    ∃ command, (server.resolveLens (p.toCodeLens s)).command = some command := by
  obtain ⟨t, found⟩ := Option.ne_none_iff_exists'.mp present
  rw [treeOf, ← file] at found
  rw [resolveLens_eq (Placeholder.ofPayload_toCodeLens p s) found]
  exact ⟨_, rfl⟩

/-- No lens request fails. What comes back to be resolved is answered as it came exactly if it
has no payload, an unreadable one, or one of a file without a tree; any other lens gets a command,
which depends on its payload, the forest and the flag only. A file without a tree has no list of
lenses. One with a tree has a lens for each placeholder found in it, and each of these gets a
command in every later state in which the file has a tree, be it the same one or another. -/
theorem lens_requests_fail_safe (read : DocumentReader) (messages : List Message) :
    (∀ lens, ∃ reply, (after read messages).answer (.resolveLens lens) = .lens reply ∧
      (reply = lens ↔ Unresolvable (after read messages).forest lens) ∧
      (¬ Unresolvable (after read messages).forest lens →
        (∃ command, reply.command = some command) ∧ reply.data = none ∧
        ∀ (other : List Message) (twin : CodeLens), twin.data = lens.data →
          (after read other).forest = (after read messages).forest →
          (after read other).settings.canToggle = (after read messages).settings.canToggle →
          (after read other).answer (.resolveLens twin) = .lens reply)) ∧
    ∀ uri, ∃ listed, (after read messages).answer (.codeLenses uri) = .codeLenses listed ∧
      (listed = none ↔ (after read messages).treeOf uri = none) ∧
      ∀ t, (after read messages).treeOf uri = some t → ∃ lenses, listed = some lenses ∧
        lenses = (Discovery.lenses (toString uri) t).map (Placeholder.toCodeLens · t.source) ∧
        lenses.map (fun lens => Placeholder.ofPayload lens.data) =
          (Discovery.lenses (toString uri) t).map .ok ∧
        ∀ lens ∈ lenses, ∀ later, (after read (messages ++ later)).treeOf uri ≠ none →
          ∃ reply command, (after read (messages ++ later)).answer (.resolveLens lens) =
            .lens reply ∧ reply.command = some command := by
  constructor
  · intro lens
    refine ⟨_, rfl, resolveLens_eq_self_iff, ?_⟩
    intro resolvable
    have ⟨command, spent⟩ := command_of_resolvable resolvable
    refine ⟨command, spent, ?_⟩
    intro other twin data forest flag
    rw [answer, resolveLens_congr resolvable data forest flag]
  · intro uri
    refine ⟨_, rfl, Option.map_eq_none_iff, ?_⟩
    intro t found
    refine ⟨_, by rw [codeLenses, found, Option.map_some], rfl, ?_, ?_⟩
    · rw [List.map_map]
      exact List.map_congr_left fun p _ => Placeholder.ofPayload_toCodeLens p t.source
    · intro lens inside later present
      obtain ⟨p, discovered, rfl⟩ := List.mem_map.mp inside
      obtain ⟨command, same⟩ :=
        command_of_listed (s := t.source) (Discovery.file_of_mem_lenses discovered) present
      exact ⟨_, command, rfl, same⟩

/-- Finds the declaration `x = 1` in a text that has it. -/
def readDeclaration : DocumentReader := fun text =>
  (Tree.build text ([.openHere "file"] ++
    Forest.valueCalls "x" [.leaf "number_constant_expr" "1"] ++ [.close])).toOption

def draftUrl : Url := (Url.parse? "file:///draft.elm").get (by decide +kernel)

def openDraft : List Message := [.notice (.opened draftUrl "x = 1")]

/-- The declaration is broken off. -/
def breakDraft : List Message := [.notice (.changed draftUrl ["x ="])]

/-- The declaration is whole again, one line further down. -/
def mendDraft : List Message := [.notice (.changed draftUrl ["\nx = 1"])]

theorem lens_outlives_its_tree :
    ∃ t, (after readDeclaration openDraft).treeOf draftUrl = some t ∧
      (Discovery.lenses (toString draftUrl) t).length = 2 ∧
      ∀ p ∈ Discovery.lenses (toString draftUrl) t,
        (after readDeclaration (openDraft ++ breakDraft)).answer
            (.resolveLens (p.toCodeLens t.source)) = .lens (p.toCodeLens t.source) ∧
          ∃ reply command, (after readDeclaration (openDraft ++ (breakDraft ++ mendDraft))).answer
            (.resolveLens (p.toCodeLens t.source)) = .lens reply ∧ reply.command = some command := by
  have size : ((after readDeclaration openDraft).treeOf draftUrl).map (fun t =>
      (Discovery.lenses (toString draftUrl) t).length) = some 2 := by decide +kernel
  have lost : (after readDeclaration (openDraft ++ breakDraft)).treeOf draftUrl = none := by
    rw [← Option.not_isSome_iff_eq_none]
    decide +kernel
  have back : (after readDeclaration (openDraft ++ (breakDraft ++ mendDraft))).treeOf draftUrl ≠
      none := by
    rw [← Option.isSome_iff_ne_none]
    decide +kernel
  obtain ⟨t, found, count⟩ := Option.map_eq_some_iff.mp size
  refine ⟨t, found, count, ?_⟩
  intro p discovered
  constructor
  · obtain ⟨reply, same, unchanged, -⟩ :=
      (lens_requests_fail_safe readDeclaration (openDraft ++ breakDraft)).1 (p.toCodeLens t.source)
    have file := Discovery.file_of_mem_lenses discovered
    have stuck := unchanged.mpr
      (.treeless rfl (Placeholder.ofJson?_toJson p) (by rw [file]; exact lost))
    rw [same, stuck]
  · obtain ⟨listed, -, -, all⟩ :=
      (lens_requests_fail_safe readDeclaration openDraft).2 draftUrl
    obtain ⟨lenses, -, rfl, -, later⟩ := all t found
    exact later _ (List.mem_map_of_mem discovered) (breakDraft ++ mendDraft) back

end Server

end ElmOverlay
