import ElmOverlay.Proofs.BuilderCalls

/-!
The place from which a builder looks for texts. The cursor moves with a text that is found, with
an end or a start that is given, and with a node that closes, and it goes on moving when a call has
failed. Given ranges may overlap or run backwards. As long as their ends lie between characters,
every call leaves the cursor between characters, and none moves it back.
-/
namespace ElmOverlay

open Arena

/-- The ends that a call gives lie between characters, if they lie in the source. -/
def BuildCall.EndsWhole (c : BuildCall) (s : Source) : Prop :=
  ∀ r ∈ c.range?, (r.start ≤ s.size → s.OnBoundary r.start) ∧
    (r.stop ≤ s.size → s.OnBoundary r.stop)

instance (c : BuildCall) (s : Source) : Decidable (c.EndsWhole s) :=
  inferInstanceAs (Decidable (∀ r ∈ c.range?, _))

namespace Draft

variable {d : Draft}

/-! ### Calls move the cursor forward -/

/-- The same source, with the cursor at the same place or behind it. -/
structure Ahead (d d' : Draft) : Prop where
  source : d'.source = d.source
  cursor : d.cursor ≤ d'.cursor

theorem Ahead.trans {d' d'' : Draft} (first : d.Ahead d') (second : d'.Ahead d'') :
    d.Ahead d'' where
  source := second.source.trans first.source
  cursor := Nat.le_trans first.cursor second.cursor

theorem ahead_fail (e : BuildError) : d.Ahead (d.fail e) := ⟨rfl, Nat.le_refl _⟩

theorem ahead_advance (offset : Nat) : d.Ahead (d.advance offset) := ⟨rfl, Nat.le_max_left _ _⟩

theorem ahead_push (kind : String) (named : Bool) (r : ByteRange) (derived opens : Bool) :
    d.Ahead (d.push kind named r derived opens) := by
  unfold push
  split
  · exact ⟨rfl, Nat.le_refl _⟩
  · split
    · exact ⟨rfl, Nat.le_refl _⟩
    · exact ⟨rfl, Nat.le_refl _⟩
    · exact ahead_fail _

theorem ahead_addFound (kind : String) (named : Bool) (text : String) :
    d.Ahead (d.addFound kind named text) := by
  unfold addFound
  split
  · exact ⟨rfl, Nat.le_refl _⟩
  · split
    · split
      next => exact ahead_fail _
      next start found =>
        have later := (Source.find?_bounds found).1
        have moved : d.Ahead { d with cursor := start + text.utf8ByteSize } :=
          ⟨rfl, Nat.le_trans later (Nat.le_add_right _ _)⟩
        exact moved.trans (ahead_push ..)
    · exact ahead_fail _

theorem ahead_close (s : d.Sound) : d.Ahead (d.close s) := by
  unfold Draft.close
  split
  · exact ahead_fail _
  · dsimp only
    split
    · exact ⟨rfl, Nat.le_refl _⟩
    · exact ⟨rfl, Nat.le_max_left _ _⟩

/-- Whatever it does, a call stays with its source and does not move the cursor back. -/
theorem ahead_call (s : d.Sound) (c : BuildCall) : d.Ahead (d.call s c) := by
  cases c with
  | openHere kind => exact ahead_push ..
  | openAt kind named r =>
    simp only [call, openAt]
    split
    · exact (ahead_advance r.start).trans (ahead_push ..)
    · exact ahead_fail _
  | leaf kind text => exact ahead_addFound ..
  | token text => exact ahead_addFound ..
  | leafAt kind named r =>
    simp only [call, leafAt]
    split
    · exact (ahead_advance r.stop).trans (ahead_push ..)
    · exact ahead_fail _
  | close => exact ahead_close s

/-! ### The cursor stays between characters -/

/-- The cursor lies between characters, and so do the ends of all ranges that were not derived,
which is where closing a node may take it. No text was looked for from within a character. -/
structure Whole (d : Draft) : Prop where
  cursor : d.source.OnBoundary d.cursor
  given : ∀ i, d.derived[i]? = some false → d.source.OnBoundary (rangeOf d.nodes i).stop
  uncut : ∀ offset, d.error ≠ some (.cursorInsideCharacter offset)

theorem whole_start (s : Source) : Whole (Builder.start s).toDraft where
  cursor := Source.onBoundary_zero
  given := fun _ h => by cases h
  uncut := fun _ h => by cases h

theorem Whole.move (whole : d.Whole) {offset : Nat} (here : d.source.OnBoundary offset) :
    Whole { d with cursor := offset } :=
  { whole with cursor := here }

theorem Whole.advance (whole : d.Whole) {offset : Nat} (here : d.source.OnBoundary offset) :
    (d.advance offset).Whole := by
  apply whole.move
  rcases Nat.le_total d.cursor offset with behind | before
  · rwa [Nat.max_eq_right behind]
  · rw [Nat.max_eq_left before]
    exact whole.cursor

theorem Whole.fail (whole : d.Whole) {e : BuildError}
    (other : ∀ offset, e ≠ .cursorInsideCharacter offset) : (d.fail e).Whole where
  cursor := whole.cursor
  given := whole.given
  uncut := by
    intro offset failed
    cases before : d.error with
    | none =>
      rw [error_fail before] at failed
      exact other offset (Option.some.inj failed)
    | some first =>
      rw [error_fail_of_failed before] at failed
      exact whole.uncut offset (before.trans failed)

theorem Whole.append (whole : d.Whole) (size : d.derived.size = d.nodes.size) {n : Node}
    {derived opens : Bool} (ends : derived = false → d.source.OnBoundary n.range.stop) :
    (d.append n derived opens).Whole where
  cursor := whole.cursor
  given := by
    intro i hi
    simp only [Draft.append, rangeOf_push, Array.getElem?_push, size] at hi ⊢
    split at hi
    next new =>
      rw [if_pos new]
      exact ends (Option.some.inj hi)
    next old =>
      rw [if_neg old]
      exact whole.given i hi
  uncut := whole.uncut

theorem Whole.push (whole : d.Whole) (size : d.derived.size = d.nodes.size) (kind : String)
    (named : Bool) {r : ByteRange} {derived : Bool} (opens : Bool)
    (ends : derived = false → d.source.OnBoundary r.stop) :
    (d.push kind named r derived opens).Whole := by
  unfold Draft.push
  split
  · exact whole
  · split
    · exact whole.append size ends
    · exact whole.append size ends
    · exact whole.fail (by simp)

/-- A search from between two characters is not cut, and ends between two. -/
theorem Whole.addFound (whole : d.Whole) (size : d.derived.size = d.nodes.size) (kind : String)
    (named : Bool) (text : String) : (d.addFound kind named text).Whole := by
  unfold Draft.addFound
  split
  · exact whole
  · rw [if_pos whole.cursor]
    split
    next => exact whole.fail (by simp)
    next start found =>
      have behind := (Source.onBoundary_of_find? whole.cursor found).2
      exact (whole.move behind).push size kind named false fun _ => behind

/-- A range that is derived replaces one that was derived. -/
theorem Whole.setRange (whole : d.Whole) {i : Nat} (small : i < d.nodes.size)
    (derived : d.derived[i]? = some true) (r : ByteRange) :
    Whole { d with nodes := setRange d.nodes i r } where
  cursor := whole.cursor
  given := by
    intro j hj
    rw [rangeOf_setRange small]
    split
    next same =>
      subst same
      rw [derived] at hj
      cases hj
    next => exact whole.given j hj
  uncut := whole.uncut

theorem Whole.close (whole : d.Whole) (s : d.Sound) : (d.close s).Whole := by
  unfold Draft.close
  split
  · exact whole.fail (by simp)
  next i rest opened =>
    have small : i < d.nodes.size := s.opened_lt i (opened ▸ List.mem_cons_self)
    have row : i < d.derived.size := Nat.lt_of_lt_of_eq small s.derived_size.symm
    have kept : Whole { d with opened := rest } := { whole with }
    have shown := Array.getElem?_eq_getElem row
    dsimp only
    split
    next derived => exact kept.setRange small (shown.trans (congrArg some derived)) _
    next given =>
      have stop := whole.given i (by simpa [shown] using given)
      rw [rangeOf_eq_getElem small] at stop
      exact kept.advance stop

theorem Whole.call (whole : d.Whole) (s : d.Sound) {c : BuildCall}
    (ends : c.EndsWhole d.source) : (d.call s c).Whole := by
  have size := s.derived_size
  cases c with
  | openHere kind => exact whole.push size kind true true nofun
  | openAt kind named r =>
    simp only [Draft.call, Draft.openAt]
    split
    next fits =>
      obtain ⟨start, stop⟩ := ends r rfl
      have moved := whole.advance (start (Nat.le_trans fits.1 fits.2))
      exact moved.push size kind named true fun _ => stop fits.2
    next => exact whole.fail (by simp)
  | leaf kind text => exact whole.addFound size kind true text
  | token text => exact whole.addFound size text false text
  | leafAt kind named r =>
    simp only [Draft.call, Draft.leafAt]
    split
    next fits =>
      have stop := (ends r rfl).2 fits.2
      exact (whole.advance stop).push size kind named false fun _ => stop
    next => exact whole.fail (by simp)
  | close => exact whole.close s

end Draft

/-! ### Runs -/

namespace Builder

open Draft

/-- What a call finds at the cursor and where it leaves it. The text falls into two at the cursor,
so that a text can be looked for from there on. -/
structure CursorSafe (s : Source) (d d' : Draft) : Prop where
  searchable : ∃ front back : String, s.text = front ++ back ∧ d.cursor = front.toByteArray.size
  uncut : ∀ offset, d'.error ≠ some (.cursorInsideCharacter offset)
  forward : d.cursor ≤ d'.cursor
  inside : d'.cursor ≤ s.size
  boundary : s.OnBoundary d'.cursor

variable {s : Source} {calls : List BuildCall}

theorem whole_run (ends : ∀ c ∈ calls, c.EndsWhole s) :
    ((start s).run calls).source = s ∧ ((start s).run calls).Whole := by
  induction calls using List.reverseRecOn with
  | nil => exact ⟨rfl, whole_start s⟩
  | append_singleton calls c ih =>
    obtain ⟨source, whole⟩ := ih fun b hb => ends b (List.mem_append_left _ hb)
    rw [run_append]
    generalize (start s).run calls = b at source whole
    have last : c.EndsWhole b.source := source ▸ ends c (by simp)
    exact ⟨(ahead_call b.sound c).source.trans source, whole.call b.sound last⟩

/-- A run whose given ends lie between characters is safe at every call, also behind a failure. The
source can be searched from the cursor on, no search is cut, and the cursor moves forward to a place
between two characters. -/
theorem cursor_safe_of_endsWhole (ends : ∀ c ∈ calls, c.EndsWhole s) :
    ∀ before c later, calls = before ++ c :: later →
      CursorSafe s ((start s).run before).toDraft ((start s).run (before ++ [c])).toDraft := by
  rintro before c later rfl
  have earlier : ∀ b ∈ before, b.EndsWhole s := fun b hb => ends b (by simp [hb])
  obtain ⟨source, whole⟩ := whole_run earlier
  have last : c.EndsWhole s := ends c (by simp)
  rw [run_append]
  generalize (start s).run before = b at source whole
  subst source
  have ahead : b.Ahead (b.call c).toDraft := ahead_call b.sound c
  have after : (b.call c).Whole := whole.call b.sound last
  exact {
    searchable := exists_split whole.cursor
    uncut := after.uncut
    forward := ahead.cursor
    inside := ahead.source ▸ (b.call c).sound.cursor_le
    boundary := ahead.source ▸ after.cursor }

/-- Ranges that overlap, one that runs backwards, one that leaves the source, and a node that closes
behind the failure. -/
def patchwork : List BuildCall :=
  [.openAt "file" true ⟨3, 5⟩, .leafAt "first" true ⟨0, 2⟩, .token "", .leafAt "second" true ⟨5, 3⟩,
    .leafAt "third" true ⟨2, 6⟩, .leaf "fourth" "é", .close]

theorem cursor_safe_patchwork :
    let s := Source.ofString "é=é"
    let cursorAfter := fun n => ((start s).run (patchwork.take n)).cursor
    (∀ c ∈ patchwork, c.EndsWhole s) ∧
      (List.range 8).map cursorAfter = [0, 3, 3, 3, 3, 3, 3, 5] ∧
      CursorSafe s ((start s).run (patchwork.take 6)).toDraft
        ((start s).run patchwork).toDraft := by
  intro s cursorAfter
  have ends : ∀ c ∈ patchwork, c.EndsWhole s := by decide +kernel
  exact ⟨ends, by decide +kernel,
    cursor_safe_of_endsWhole ends (patchwork.take 6) .close [] rfl⟩

end Builder

end ElmOverlay
