import ElmOverlay.Proofs.BuilderCalls

/-!
Which calls make a tree. A run of calls makes one exactly if no call is refused, no node stays
open and there is a node. Otherwise the answer is the reason of the first call that is
refused, whatever calls follow it, or the innermost node that stays open.
-/
namespace ElmOverlay

open Draft

namespace Outline

/-- What a run of calls shows, if none is refused. -/
def ofCalls (s : Source) (calls : List BuildCall) : Outline := calls.foldl (after s) {}

/-- No call is refused. -/
def Accepts (s : Source) (calls : List BuildCall) : Prop :=
  ∀ before c later, calls = before ++ c :: later → ∀ e, ¬ (ofCalls s before).Refuses s c e

/-- Why calls make no tree. -/
inductive Flaw (s : Source) (calls : List BuildCall) : BuildError → Prop where
  | refused {before later : List BuildCall} {c : BuildCall} {e : BuildError}
      (split : calls = before ++ c :: later) (accepted : Accepts s before)
      (first : (ofCalls s before).Refuses s c e) : Flaw s calls e
  | unclosed {kind : String} {stop : Option Nat} {rest : List (String × Option Nat)}
      (accepted : Accepts s calls) (innermost : (ofCalls s calls).opened = (kind, stop) :: rest) :
      Flaw s calls (.unclosedNode kind)
  | empty (accepted : Accepts s calls) (closed : (ofCalls s calls).opened = [])
      (rootless : (ofCalls s calls).rooted = false) : Flaw s calls .emptyTree

variable {s : Source} {calls : List BuildCall} {c : BuildCall}

theorem ofCalls_concat : ofCalls s (calls ++ [c]) = (ofCalls s calls).after s c := by
  simp [ofCalls]

theorem accepts_concat_iff : Accepts s (calls ++ [c]) ↔
    Accepts s calls ∧ ∀ e, ¬ (ofCalls s calls).Refuses s c e := by
  constructor
  · intro accepted
    constructor
    · intro before d later split
      exact accepted before d (later ++ [c]) (by simp [split])
    · exact accepted calls c [] rfl
  · rintro ⟨accepted, last⟩ before d later split
    rcases List.eq_nil_or_concat later with rfl | ⟨front, b, rfl⟩
    · obtain ⟨rfl, same⟩ := List.append_inj' split rfl
      cases same
      exact last
    · have inner : calls ++ [c] = (before ++ d :: front) ++ [b] := by simp [split]
      obtain ⟨rfl, -⟩ := List.append_inj' inner rfl
      exact accepted before d front rfl

/-- Calls are all accepted, or one is the first that is refused. -/
theorem accepts_or_refused (s : Source) (calls : List BuildCall) : Accepts s calls ∨
    ∃ before d later e, calls = before ++ d :: later ∧ Accepts s before ∧
      (ofCalls s before).Refuses s d e := by
  induction calls using List.reverseRecOn with
  | nil =>
    left
    intro before d later split
    simp at split
  | append_singleton calls c ih =>
    rcases ih with accepted | ⟨before, d, later, e, rfl, accepted, first⟩
    · by_cases last : ∀ e, ¬ (ofCalls s calls).Refuses s c e
      · exact .inl (accepts_concat_iff.mpr ⟨accepted, last⟩)
      · obtain ⟨e, refused⟩ := Classical.not_forall_not.mp last
        exact .inr ⟨calls, c, [], e, rfl, accepted, refused⟩
    · exact .inr ⟨before, d, later ++ [c], e, by simp, accepted, first⟩

end Outline

open Outline

namespace Builder

/-- Accepted calls leave no failure, and what the run shows is what the calls say. -/
theorem run_of_accepts {s : Source} {calls : List BuildCall} (accepted : Accepts s calls) :
    ((start s).run calls).error = none ∧ ((start s).run calls).source = s ∧
      ((start s).run calls).outline = ofCalls s calls := by
  induction calls using List.reverseRecOn with
  | nil => exact ⟨rfl, rfl, rfl⟩
  | append_singleton calls c ih =>
    obtain ⟨front, last⟩ := accepts_concat_iff.mp accepted
    obtain ⟨fine, source, shown⟩ := ih front
    rw [run_append]
    generalize (start s).run calls = b at fine source shown
    have takes : b.Takes c (b.toDraft.call b.sound c) := by
      apply takes_of_accepted _ b.sound fine
      rw [shown, source]
      exact last
    refine ⟨takes.error.trans fine, takes.source.trans source, ?_⟩
    rw [ofCalls_concat, ← shown, ← source]
    exact outline_of_takes b.sound takes

theorem error_run_of_refused {s : Source} {before later : List BuildCall} {c : BuildCall}
    {e : BuildError} (accepted : Accepts s before) (first : (ofCalls s before).Refuses s c e) :
    ((start s).run (before ++ c :: later)).error = some e := by
  obtain ⟨fine, source, shown⟩ := run_of_accepts accepted
  rw [run_append]
  generalize (start s).run before = b at fine source shown
  rw [← shown, ← source] at first
  exact error_run_of_failed (b := b.call c) (error_call_of_refused b.sound fine first) later

end Builder

/-- Calls with a flaw end in it. -/
theorem build_of_flaw {text : String} {calls : List BuildCall} {e : BuildError}
    (flaw : Flaw (Source.ofString text) calls e) : Tree.build text calls = .error e := by
  cases flaw with
  | @refused before later c e split accepted first =>
    subst split
    exact Builder.finish_of_failed (Builder.error_run_of_refused accepted first)
  | @unclosed kind stop rest accepted innermost =>
    obtain ⟨fine, -, shown⟩ := Builder.run_of_accepts accepted
    rw [← shown] at innermost
    obtain ⟨i, below, opened, first, -⟩ := List.map_eq_cons_iff.mp innermost
    rw [Tree.build, Builder.finish_of_opened fine opened]
    cases first
    rfl
  | empty accepted closed rootless =>
    obtain ⟨fine, -, shown⟩ := Builder.run_of_accepts accepted
    rw [← shown] at closed rootless
    exact Builder.finish_of_rootless fine (List.map_eq_nil_iff.mp closed)
      (Option.isSome_eq_false_iff.mp rootless |> Option.isNone_iff_eq_none.mp)

/-- Accepted calls that close every node make a tree. -/
theorem build_of_accepts {text : String} {calls : List BuildCall}
    (accepted : Accepts (Source.ofString text) calls)
    (closed : (ofCalls (Source.ofString text) calls).opened = [])
    (rooted : (ofCalls (Source.ofString text) calls).rooted = true) :
    ∃ t, Tree.build text calls = .ok t := by
  obtain ⟨fine, -, shown⟩ := Builder.run_of_accepts accepted
  rw [← shown] at closed rooted
  obtain ⟨i, root⟩ := Option.isSome_iff_exists.mp rooted
  exact Builder.finish_of_closed fine (List.map_eq_nil_iff.mp closed) root

theorem flaw_or_accepts (s : Source) (calls : List BuildCall) : (∃ e, Flaw s calls e) ∨
    Accepts s calls ∧ (ofCalls s calls).opened = [] ∧ (ofCalls s calls).rooted = true := by
  rcases accepts_or_refused s calls with accepted | ⟨before, c, later, e, split, accepted, first⟩
  · cases opened : (ofCalls s calls).opened with
    | cons first rest => exact .inl ⟨_, .unclosed accepted opened⟩
    | nil =>
      cases rooted : (ofCalls s calls).rooted with
      | false => exact .inl ⟨_, .empty accepted opened rooted⟩
      | true => exact .inr ⟨accepted, rfl, rfl⟩
  · exact .inl ⟨e, .refused split accepted first⟩

/-- Calls fail with their flaw and with nothing else: the first refusal, or else a node that
stays open, or no node at all. Without a flaw they make a tree. -/
theorem build_fails_iff_flaw (text : String) (calls : List BuildCall) :
    (∀ e, Tree.build text calls = .error e ↔ Flaw (Source.ofString text) calls e) ∧
      ((∃ t, Tree.build text calls = .ok t) ↔
        Accepts (Source.ofString text) calls ∧
          (ofCalls (Source.ofString text) calls).opened = [] ∧
          (ofCalls (Source.ofString text) calls).rooted = true) := by
  have cases := flaw_or_accepts (Source.ofString text) calls
  constructor
  · intro e
    constructor
    · intro failed
      rcases cases with ⟨e', flaw⟩ | ⟨accepted, closed, rooted⟩
      · have same := build_of_flaw flaw
        rw [failed] at same
        cases same
        exact flaw
      · obtain ⟨t, built⟩ := build_of_accepts accepted closed rooted
        rw [failed] at built
        cases built
    · exact build_of_flaw
  · constructor
    · rintro ⟨t, built⟩
      rcases cases with ⟨e, flaw⟩ | whole
      · rw [build_of_flaw flaw] at built
        cases built
      · exact whole
    · rintro ⟨accepted, closed, rooted⟩
      exact build_of_accepts accepted closed rooted

end ElmOverlay
