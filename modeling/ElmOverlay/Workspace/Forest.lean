import ElmOverlay.Elm.Declaration

/-!
The trees of a workspace by file, in ascending order of file identifiers. The entries are
sorted, so two forests are equal as soon as they hold the same tree for each file.
-/
namespace ElmOverlay

/-- A document's URI as text. -/
abbrev FileId := String

structure Forest where
  entries : List (FileId × Tree) := []
  sorted : entries.Pairwise fun a b => a.1 < b.1 := by exact .nil

namespace Forest

def empty : Forest := {}

instance : Inhabited Forest := ⟨empty⟩

def get? (forest : Forest) (file : FileId) : Option Tree :=
  (forest.entries.find? fun e => e.1 = file).map Prod.snd

def contains (forest : Forest) (file : FileId) : Bool := (forest.get? file).isSome

def size (forest : Forest) : Nat := forest.entries.length

def files (forest : Forest) : List FileId := forest.entries.map Prod.fst

def insertEntry (file : FileId) (t : Tree) : List (FileId × Tree) → List (FileId × Tree)
  | [] => [(file, t)]
  | e :: es =>
    if file < e.1 then (file, t) :: e :: es
    else if file = e.1 then (file, t) :: es
    else e :: insertEntry file t es

theorem mem_insertEntry {file : FileId} {t : Tree} {e : FileId × Tree}
    {es : List (FileId × Tree)} (h : e ∈ insertEntry file t es) : e = (file, t) ∨ e ∈ es := by
  induction es with
  | nil => simpa [insertEntry] using h
  | cons d ds ih =>
    rw [insertEntry] at h
    split at h
    · simpa using h
    · split at h
      · rcases List.mem_cons.mp h with h | h
        · exact .inl h
        · exact .inr (List.mem_cons_of_mem _ h)
      · rcases List.mem_cons.mp h with rfl | h
        · exact .inr List.mem_cons_self
        · exact (ih h).imp_right (List.mem_cons_of_mem _)

theorem sorted_insertEntry (file : FileId) (t : Tree) {es : List (FileId × Tree)}
    (h : es.Pairwise fun a b => a.1 < b.1) :
    (insertEntry file t es).Pairwise fun a b => a.1 < b.1 := by
  induction es with
  | nil => simp [insertEntry]
  | cons d ds ih =>
    have ⟨hd, hds⟩ := List.pairwise_cons.mp h
    rw [insertEntry]
    split
    next hlt =>
      refine List.pairwise_cons.mpr ⟨fun e he => ?_, h⟩
      rcases List.mem_cons.mp he with rfl | he
      · exact hlt
      · exact String.lt_trans hlt (hd e he)
    next hge =>
      split
      next heq => exact List.pairwise_cons.mpr ⟨fun e he => heq ▸ hd e he, hds⟩
      next hne =>
        refine List.pairwise_cons.mpr ⟨fun e he => ?_, ih hds⟩
        rcases mem_insertEntry he with rfl | he
        · exact Std.lt_of_le_of_ne (String.not_lt.mp hge) (Ne.symm hne)
        · exact hd e he

def insert (forest : Forest) (file : FileId) (t : Tree) : Forest :=
  ⟨insertEntry file t forest.entries, sorted_insertEntry file t forest.sorted⟩

def erase (forest : Forest) (file : FileId) : Forest :=
  ⟨forest.entries.filter fun e => e.1 ≠ file, forest.sorted.filter _⟩

theorem mem_entries {forest : Forest} {file : FileId} {t : Tree} :
    (file, t) ∈ forest.entries ↔ forest.get? file = some t := by
  obtain ⟨entries, sorted⟩ := forest
  simp only [get?]
  induction entries with
  | nil => simp
  | cons e es ih =>
    have ⟨first, rest⟩ := List.pairwise_cons.mp sorted
    rw [List.mem_cons, List.find?_cons]
    by_cases here : e.1 = file
    · subst here
      have later : (e.1, t) ∉ es := fun h => String.lt_irrefl _ (first (e.1, t) h)
      rw [decide_eq_true rfl, Option.map_some, Option.some.injEq]
      simp only [later, or_false, Prod.ext_iff, true_and]
      exact eq_comm
    · have away : (file, t) ≠ e := fun h => here (h ▸ rfl)
      simp [here, away, ih rest]

theorem find?_insertEntry (file key : FileId) (t : Tree) (es : List (FileId × Tree)) :
    ((insertEntry file t es).find? fun e => e.1 = key).map Prod.snd =
      if key = file then some t else (es.find? fun e => e.1 = key).map Prod.snd := by
  induction es with
  | nil => by_cases h : file = key <;> simp [insertEntry, h, eq_comm]
  | cons e es ih =>
    rw [insertEntry]
    by_cases same : key = file
    · subst same
      rw [if_pos rfl] at ih ⊢
      split
      next => simp
      next =>
        split
        next => simp
        next other => simpa [List.find?_cons, Ne.symm other] using ih
    · rw [if_neg same] at ih ⊢
      split
      next => simp [Ne.symm same]
      next =>
        split
        next here => simp [← here, Ne.symm same]
        next => by_cases h : e.1 = key <;> simp_all

theorem get?_insert (forest : Forest) (file key : FileId) (t : Tree) :
    (forest.insert file t).get? key = if key = file then some t else forest.get? key :=
  find?_insertEntry file key t forest.entries

theorem get?_erase (forest : Forest) (file key : FileId) :
    (forest.erase file).get? key = if key = file then none else forest.get? key := by
  rw [get?, erase, List.find?_filter]
  split
  next same => simp [same]
  next other =>
    have test (e : FileId × Tree) : (decide (e.1 ≠ file) = true ∧ decide (e.1 = key) = true) ↔
        e.1 = key := by
      by_cases h : e.1 = key <;> simp [h, other]
    simp only [test]
    rfl

theorem nodup_entries (forest : Forest) : forest.entries.Nodup := by
  refine forest.sorted.imp ?_
  rintro e _ less rfl
  exact String.lt_irrefl e.1 less

/-- The entry of a file, if it has one. -/
theorem filter_entries (forest : Forest) (file : FileId) :
    (forest.entries.filter fun e => e.1 = file) = ((forest.get? file).map (file, ·)).toList := by
  have sorted := forest.sorted.filter (fun e => e.1 = file)
  have members (e : FileId × Tree) : e ∈ forest.entries.filter (fun e => e.1 = file) →
      e.1 = file := fun h => of_decide_eq_true (List.mem_filter.mp h).2
  rw [get?, ← List.head?_filter]
  generalize forest.entries.filter (fun e => e.1 = file) = l at sorted members
  match l with
  | [] => rfl
  | [(key, t)] =>
    obtain rfl : key = file := members _ List.mem_cons_self
    rfl
  | a :: b :: rest =>
    have less := (List.pairwise_cons.mp sorted).1 b List.mem_cons_self
    rw [members a (by simp), members b (by simp)] at less
    exact absurd less (String.lt_irrefl file)

theorem eq_of_get? {a b : Forest} (same : ∀ file, a.get? file = b.get? file) : a = b := by
  have members (e : FileId × Tree) : e ∈ a.entries ↔ e ∈ b.entries := by
    rw [mem_entries, mem_entries, same]
  have permuted : a.entries.Perm b.entries :=
    (List.perm_ext_iff_of_nodup a.nodup_entries b.nodup_entries).mpr members
  have entries : a.entries = b.entries := by
    refine permuted.eq_of_pairwise ?_ a.sorted b.sorted
    intro x y _ _ less more
    exact absurd (String.lt_trans less more) (String.lt_irrefl x.1)
  obtain ⟨_, _⟩ := a
  obtain ⟨_, _⟩ := b
  cases entries
  rfl

/-- The first file, in order, whose header declares a module name. -/
def module? (forest : Forest) (name : String) : Option (FileId × Tree) :=
  forest.entries.find? fun e => (Elm.moduleName e.2).any fun n => e.2.text n = name

end Forest

end ElmOverlay
