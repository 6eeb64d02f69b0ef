import ElmOverlay.Proofs.EditorPositions
import ElmOverlay.Proofs.ForeignUses
import ElmOverlay.Proofs.PreOrder
import ElmOverlay.Proofs.StaleLenses
import Mathlib.Data.List.Dedup

/-!
The order of reference sites. A search lists nodes by their numbers, and a number says little of a
place: a node has a lesser one than those below it, and all of them may begin where it begins. If
identifiers do not stand below one another, a later one begins where the earlier one has ended. The
one exception, a name in an entry of an exposing list, is no use of anything: only the entry is.
-/
namespace ElmOverlay

open Elm

/-! ### Trees -/

namespace Tree

variable {t : Tree}

/-- A node with a text is not empty. -/
theorem solid_of_text {n : t.Id} (nonempty : t.text n ≠ "") :
    (t.range n).start < (t.range n).stop := by
  rw [text] at nonempty
  cases slice : t.source.slice? (t.range n) with
  | none => exact absurd (by rw [slice]; rfl) nonempty
  | some part =>
    rw [slice, Option.getD_some] at nonempty
    have size := congrArg ByteArray.size (slice?_eq_some.mp slice)
    have some_byte : part.utf8ByteSize ≠ 0 := fun h =>
      nonempty (String.utf8ByteSize_eq_zero_iff.mp h)
    rw [ByteArray.size_extract] at size
    change _ = part.utf8ByteSize at size
    omega

/-- No identifier stands below another one, but for the name in an entry of an exposing list. -/
def IdentifiersApart (t : Tree) : Prop :=
  ∀ a b : t.Id, Below a b → a ≠ b → t.kind a ∈ identifierKinds → t.kind b ∈ identifierKinds →
    t.kind a = "exposed_value" ∧ t.kind b = "lower_case_identifier" ∧ t.parent b = some a

instance (t : Tree) : Decidable t.IdentifiersApart :=
  decidable_of_iff (∀ a : t.Id, ∀ b ∈ t.descendants a, a ≠ b → t.kind a ∈ identifierKinds →
      t.kind b ∈ identifierKinds → t.kind a = "exposed_value" ∧
        t.kind b = "lower_case_identifier" ∧ t.parent b = some a) <| by
    simp only [mem_descendants_iff, IdentifiersApart]

/-- A built tree of a text that points can count, whose ranges nest like its nodes and whose
identifiers are apart. -/
structure Orderly (t : Tree) : Prop where
  built : ∃ text calls, Tree.build text calls = .ok t
  small : t.source.Small
  nested : t.WellNested
  apart : t.IdentifiersApart

end Tree

/-! ### Uses in one tree -/

namespace Forest

variable {forest : Forest} {file : FileId} {t : Tree} {d : Definition}

/-- The name in an entry of an exposing list means nothing of its own. -/
theorem resolve_in_entry {n entry : t.Id} (lower : t.kind n = "lower_case_identifier")
    (parent : t.parent n = some entry) (exposes : t.kind entry = "exposed_value") :
    forest.resolve file n = none := by
  simp [resolve, lower, resolveLower, parent, exposes]

/-- Imports follow one another, and each has one name at most. -/
theorem importsOf_ascend (nested : t.WellNested) (name : String) :
    (importsOf t name).Pairwise fun a b => (t.range a).stop ≤ (t.range b).start := by
  have clauses : (imports t).Pairwise fun a b => (t.range a).stop ≤ (t.range b).start :=
    ((Tree.children_apart nested t.root).filter _).filter _
  apply List.Pairwise.filter
  rw [List.pairwise_filterMap]
  apply clauses.imp
  intro a b apart p hp q hq
  have inFirst := nested.inside p a (Tree.childOfKind_eq_some hp).1
  have inSecond := nested.inside q b (Tree.childOfKind_eq_some hq).1
  exact Nat.le_trans inFirst.2 (Nat.le_trans apart inSecond.1)

/-- No use begins before the uses in front of it have ended. -/
theorem usesIn_ascend (orderly : t.Orderly) :
    (forest.usesIn d file t).Pairwise fun a b => (t.range a).stop ≤ (t.range b).start := by
  by_cases isModule : d.kind = .moduleName
  · rw [usesIn, if_pos isModule]
    exact importsOf_ascend orderly.nested d.name
  · obtain ⟨text, calls, built⟩ := orderly.built
    have walk := Tree.descendants_below_or_apart orderly.nested t.root
    rw [Tree.descendants_root_of_build built] at walk
    have uses := walk.filter (forest.pointsTo d file)
    rw [← usesIn_eq_filter isModule] at uses
    apply uses.imp_of_mem
    rintro a b ha hb (⟨c, child, below⟩ | apart)
    · obtain ⟨identifier, -⟩ := (mem_usesIn isModule).mp ha
      obtain ⟨identifier', resolved, -⟩ := (mem_usesIn isModule).mp hb
      have less := Tree.lt_of_mem_children child
      have proper : a ≠ b := Fin.ne_of_lt (Nat.lt_of_lt_of_le less below.le)
      obtain ⟨exposes, lower, parent⟩ := orderly.apart a b
        (.down (Tree.mem_children.mp child) below) proper identifier identifier'
      rw [resolve_in_entry lower parent exposes] at resolved
      cases resolved
    · exact apart

end Forest

/-! ### Sites -/

namespace Site

/-- Where a site begins. -/
def place (s : Site) : FileId × Point := (s.file, s.span.start)

/-- Files come in the order of the workspace, and in a file what begins first. -/
def Before (a b : Site) : Prop :=
  a.file < b.file ∨ a.file = b.file ∧ a.span.start < b.span.start

theorem Before.place_ne {a b : Site} (before : Before a b) : a.place ≠ b.place := by
  intro same
  obtain ⟨file, start⟩ := Prod.mk.inj same
  rcases before with less | ⟨-, less⟩
  · exact String.lt_irrefl _ (file ▸ less)
  · exact Point.le_refl _ (start ▸ less)

end Site

namespace Forest

variable {forest : Forest}

/-- The sites of a definition with a name come file by file, and in each file each begins behind the
one before it, so no two begin at one place. A reference lens that counts them has in its title the
number of these places. -/
theorem references_ascend
    (orderly : ∀ file t, forest.get? file = some t → t.Orderly) {d : Definition}
    (named : d.name ≠ "") :
    (forest.references d).Pairwise Site.Before ∧
    ∀ (p : Placeholder) (t : Tree) (canToggle : Bool), p.family = .referenceCount →
      forest.get? p.file = some t → p.subjectDefinition forest t = some d →
      ∃ lens, p.resolve forest canToggle = .ok lens ∧
        lens.title = referenceLabel ((forest.references d).map Site.place).dedup.length := by
  have ascend : (forest.references d).Pairwise Site.Before := by
    rw [references, List.pairwise_flatMap]
    constructor
    · rintro ⟨file, t⟩ entry
      have tree := orderly file t (mem_entries.mp entry)
      rw [List.pairwise_map]
      apply (usesIn_ascend tree).imp_of_mem
      intro n m use _ apart
      have solid : (t.range n).start < (t.range n).stop :=
        Tree.solid_of_text (text_of_mem_usesIn use ▸ named)
      exact .inr ⟨rfl, Source.pointAt_lt tree.small (Nat.lt_of_lt_of_le solid apart)
        (Tree.range_in_source m).1⟩
    · apply forest.sorted.imp
      rintro ⟨file, t⟩ ⟨file', t'⟩ less a ha b hb
      obtain ⟨n, -, rfl⟩ := List.mem_map.mp ha
      obtain ⟨m, -, rfl⟩ := List.mem_map.mp hb
      exact .inl less
  refine ⟨ascend, ?_⟩
  intro p t canToggle family found subject
  have sites : p.references forest t = forest.references d := by
    rw [Placeholder.references, subject]
    rfl
  have distinct : ((forest.references d).map Site.place).Nodup :=
    List.Pairwise.map _ (fun _ _ => Site.Before.place_ne) ascend
  refine ⟨_, p.resolve_referenceCount family found canToggle, ?_⟩
  rw [sites, distinct.dedup, List.length_map]

/-- The calls of a header or an import that exposes `x`, as an entry with the name in it. -/
def entryCalls (kind keyword : String) : List BuildCall :=
  withList kind keyword "A" [.openHere "exposed_value", .leaf "lower_case_identifier" "x", .close]

def exposingCalls : List BuildCall :=
  List.flatten [[.openHere "file"], entryCalls "module_declaration" "module",
    valueCalls "x" [.leaf "number_constant_expr" "1"], valueCalls "y" (useCalls "x"), [.close]]

def exposingFile : Tree :=
  (Tree.build "module A exposing (x)\nx = 1\ny = x" exposingCalls).toOption.get
    (by decide +kernel)

def openingCalls : List BuildCall :=
  List.flatten [[.openHere "file"], entryCalls "import_clause" "import",
    valueCalls "z" (useCalls "x" ++ useCalls "x"), [.close]]

def openingFile : Tree :=
  (Tree.build "import A exposing (x)\nz = x x" openingCalls).toOption.get (by decide +kernel)

theorem orderly_exposingFile : exposingFile.Orderly where
  built := ⟨_, _, eq_ok_get_toOption _ _⟩
  small := by
    unfold Source.Small
    decide +kernel
  nested := by decide +kernel
  apart := by decide +kernel

theorem orderly_openingFile : openingFile.Orderly where
  built := ⟨_, _, eq_ok_get_toOption _ _⟩
  small := by
    unfold Source.Small
    decide +kernel
  nested := by decide +kernel
  apart := by decide +kernel

/-- Each entry counts once, although a name of its own text stands in it. -/
theorem entry_uses_ascend :
    let forest := (empty.insert "A.elm" exposingFile).insert "B.elm" openingFile
    let d : Definition := ⟨"A.elm", "x", .function, ⟨⟨1, 0⟩, ⟨1, 1⟩⟩⟩
    let p : Placeholder := ⟨.referenceCount, "A.elm", "x", true, ⟨⟨1, 0⟩, ⟨1, 5⟩⟩⟩
    (∀ file t, forest.get? file = some t → t.Orderly) ∧ d.name ≠ "" ∧
      forest.references d = [⟨"A.elm", ⟨⟨0, 19⟩, ⟨0, 20⟩⟩⟩, ⟨"A.elm", ⟨⟨2, 4⟩, ⟨2, 5⟩⟩⟩,
        ⟨"B.elm", ⟨⟨0, 19⟩, ⟨0, 20⟩⟩⟩, ⟨"B.elm", ⟨⟨1, 4⟩, ⟨1, 5⟩⟩⟩,
        ⟨"B.elm", ⟨⟨1, 6⟩, ⟨1, 7⟩⟩⟩] ∧
      (forest.references d).Pairwise Site.Before ∧ p.family = .referenceCount ∧
      forest.get? p.file = some exposingFile ∧
      p.subjectDefinition forest exposingFile = some d ∧
      ∃ lens, p.resolve forest true = .ok lens ∧ lens.title = "5 references" := by
  intro forest d p
  have orderly : ∀ file t, forest.get? file = some t → t.Orderly := by
    intro file t found
    rw [get?_insert, get?_insert] at found
    split at found
    · exact Option.some.inj found ▸ orderly_openingFile
    · split at found
      · exact Option.some.inj found ▸ orderly_exposingFile
      · cases found
  have found : forest.get? p.file = some exposingFile := by
    rw [get?_insert, if_neg (by decide), get?_insert, if_pos rfl]
  have ⟨uses, subject⟩ : forest.references d = [⟨"A.elm", ⟨⟨0, 19⟩, ⟨0, 20⟩⟩⟩,
        ⟨"A.elm", ⟨⟨2, 4⟩, ⟨2, 5⟩⟩⟩, ⟨"B.elm", ⟨⟨0, 19⟩, ⟨0, 20⟩⟩⟩,
        ⟨"B.elm", ⟨⟨1, 4⟩, ⟨1, 5⟩⟩⟩, ⟨"B.elm", ⟨⟨1, 6⟩, ⟨1, 7⟩⟩⟩] ∧
      p.subjectDefinition forest exposingFile = some d := by
    decide +kernel
  obtain ⟨ascend, titles⟩ := references_ascend orderly (d := d) (by decide)
  obtain ⟨lens, resolved, title⟩ := titles p exposingFile true rfl found subject
  refine ⟨orderly, by decide, uses, ascend, rfl, found, subject, lens, resolved, ?_⟩
  rw [title, uses]
  decide +kernel

end Forest

end ElmOverlay
