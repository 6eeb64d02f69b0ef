import ElmOverlay.Proofs.LensSubject
import ElmOverlay.Proofs.ReferenceSearch

/-!
A reference lens that is resolved after its file has changed. It carries the name that it was
made for and the place of that name, but only the place is read, so it counts the uses of the
name that stands at the place by then.
-/
namespace ElmOverlay

namespace Elm

variable {t : Tree}

/-- A dotted name in a header or an import, which names a module as a whole. -/
def namesModule (q : t.Id) : Bool :=
  t.kind q = "upper_case_qid" &&
    (parentKind q = some "module_declaration" || parentKind q = some "import_clause")

/-- What an identifier spells: the module that it is a part of the name of, or else itself. -/
def identifierSpelling (n : t.Id) : String := t.text (((t.parent n).filter namesModule).getD n)

/-- The name that a node spells, itself or as the node around that name. -/
def spelling (n : t.Id) : Option String :=
  if t.kind n = "exposed_value" then some (t.text n) else (headName n).map identifierSpelling

theorem identifierSpelling_eq_text {n owner : t.Id} (parent : t.parent n = some owner)
    (plain : namesModule owner = false) : identifierSpelling n = t.text n := by
  simp [identifierSpelling, parent, Option.filter, plain]

theorem identifierSpelling_eq_dotted {n qid : t.Id} (parent : t.parent n = some qid)
    (names : namesModule qid = true) : identifierSpelling n = t.text qid := by
  simp [identifierSpelling, parent, Option.filter, names]

end Elm

open Elm

namespace Forest

variable {forest : Forest} {file : FileId} {t : Tree}

/-! ### Resolution keeps the name that a node spells -/

theorem resolveLower_name {n : t.Id} {d : Definition} (h : forest.resolveLower file n = some d) :
    d.name = identifierSpelling n := by
  have declared {m : t.Id} (h : functionDefinition file m = some d) : d.name = t.text m := by
    rcases functionDefinition_eq_some h with rfl | rfl
    · exact Definition.name_ofNode file m .function
    · exact Definition.name_ofNode file m .localName
  cases resolveLower_route h with
  | declared parent place found =>
    rw [identifierSpelling_eq_text parent (by simp [namesModule, place]), declared found]
  | pattern parent place same =>
    rw [identifierSpelling_eq_text parent (by simp [namesModule, place]), same,
      Definition.name_ofNode]
  | signature parent place named same found =>
    rw [identifierSpelling_eq_text parent (by simp [namesModule, place]), declared found, same]
  | reference parent place found =>
    rw [identifierSpelling_eq_text parent (by simp [namesModule, place])]
    exact (resolveReference_answers found).name_eq

theorem resolveUpper_name {n : t.Id} {d : Definition} (h : forest.resolveUpper file n = some d) :
    d.name = identifierSpelling n := by
  cases resolveUpper_route h with
  | declared parent declares same =>
    rcases (typeName_eq_some declares).1 with isType | isType <;>
      rw [identifierSpelling_eq_text parent (by simp [namesModule, isType]), same,
        Definition.name_ofNode]
  | @header qid holder parent dotted above place same =>
    have names : namesModule qid = true := by simp [namesModule, dotted, parentKind, above, place]
    rw [identifierSpelling_eq_dotted parent names, same, Definition.name_ofNode]
  | @imported qid holder parent dotted above place found =>
    obtain ⟨_, _, _, -, -, text, rfl⟩ := resolveImport_eq_some found
    have names : namesModule qid = true := by simp [namesModule, dotted, parentKind, above, place]
    rw [identifierSpelling_eq_dotted parent names, Definition.name_ofNode, text]
  | reference parent dotted above place last found =>
    simp only [List.mem_cons, List.not_mem_nil, or_false, not_or] at place
    rw [identifierSpelling_eq_text parent (by simp [namesModule, parentKind, above, place])]
    exact (resolveReference_answers found).name_eq
  | entry parent place found =>
    rw [identifierSpelling_eq_text parent (by simp [namesModule, place])]
    exact (resolveExposed_answers found).name_eq

/-- A definition has the name that the node spells it was reached from. -/
theorem spelling_of_resolve {n : t.Id} {d : Definition} (h : forest.resolve file n = some d) :
    spelling n = some d.name := by
  rcases resolve_cases h with ⟨entry, found⟩ | ⟨other, i, head, found⟩
  · rw [spelling, if_pos entry, (resolveExposed_answers found).name_eq]
  · rw [spelling, if_neg other, head, Option.map_some]
    rcases found with ⟨-, lower⟩ | upper
    · rw [resolveLower_name lower]
    · rw [resolveUpper_name upper]

end Forest

/-! ### Uses determine the name -/

theorem Source.pointAt_inj {s : Source} (small : s.Small) {a b : Nat} (insideA : a ≤ s.size)
    (insideB : b ≤ s.size) (same : s.pointAt a = s.pointAt b) : a = b := by
  rcases Nat.lt_trichotomy a b with less | equal | more
  · have below := pointAt_lt small less insideB
    rw [same, Point.lt_iff] at below
    omega
  · exact equal
  · have below := pointAt_lt small more insideA
    rw [same, Point.lt_iff] at below
    omega

theorem Tree.text_eq_of_span_eq {t : Tree} (small : t.source.Small) {a b : t.Id}
    (same : t.span a = t.span b) : t.text a = t.text b := by
  obtain ⟨startA, stopA⟩ := range_in_source a
  obtain ⟨startB, stopB⟩ := range_in_source b
  have start := Source.pointAt_inj small startA startB (congrArg Span.start same)
  have stop := Source.pointAt_inj small stopA stopB (congrArg Span.stop same)
  have ranges : t.range a = t.range b := by
    calc t.range a = ⟨(t.range a).start, (t.range a).stop⟩ := rfl
      _ = ⟨(t.range b).start, (t.range b).stop⟩ := by rw [start, stop]
      _ = t.range b := rfl
  rw [text, text, ranges]

theorem Forest.name_eq_of_references_eq {forest : Forest}
    (small : ∀ file t, forest.get? file = some t → t.source.Small) {d e : Definition}
    (used : forest.references d ≠ []) (same : forest.references d = forest.references e) :
    d.name = e.name := by
  obtain ⟨site, use⟩ := List.exists_mem_of_ne_nil _ used
  obtain ⟨t, found, n, useD, spanN⟩ := mem_references.mp use
  obtain ⟨u, found', m, useE, spanM⟩ := mem_references.mp (same ▸ use)
  obtain rfl : t = u := Option.some.inj (found.symm.trans found')
  have texts := Tree.text_eq_of_span_eq (small _ t found) (spanN.trans spanM.symm)
  rw [← text_of_mem_usesIn useD, ← text_of_mem_usesIn useE, texts]

/-! ### Lenses -/

theorem Placeholder.resolve_referenceCount {forest : Forest} {p : Placeholder} {t : Tree}
    (family : p.family = .referenceCount) (found : forest.get? p.file = some t)
    (canToggle : Bool) :
    p.resolve forest canToggle =
      .ok ⟨p.file, p.anchor, referenceLabel (p.references forest t).length,
        some (.showReferences p.anchor (p.references forest t) p.file)⟩ := by
  rw [resolve, found]
  simp only [resolveIn, family]

/-- A discovered reference lens, resolved in any later state of its file, lists uses of its
subject exactly if the name that now stands at its anchor is the subject, unless it lists
nothing. -/
theorem stale_lens_counts_iff {forest : Forest} {file : FileId} {old new : Tree} {p : Placeholder}
    (discovered : p ∈ Discovery.lenses file old) (family : p.family = .referenceCount)
    (found : forest.get? file = some new)
    (small : ∀ file t, forest.get? file = some t → t.source.Small) (canToggle : Bool) :
    ∃ sites, p.resolve forest canToggle = .ok ⟨file, p.anchor, referenceLabel sites.length,
        some (.showReferences p.anchor sites file)⟩ ∧
      (sites = [] ∨ ∃ n, new.namedDescendantAt new.root p.anchor.start = some n ∧
        ((∃ d, d.name = p.subject ∧ sites = forest.references d) ↔
          spelling n = some p.subject)) := by
  obtain ⟨_, counts⟩ := exists_counts discovered family
  obtain ⟨rfl, -, -, -⟩ := counts.subject
  refine ⟨p.references forest new, p.resolve_referenceCount family found canToggle, ?_⟩
  cases subject : p.subjectDefinition forest new with
  | none =>
    left
    rw [Placeholder.references, subject]
    rfl
  | some d =>
    obtain ⟨n, search, resolved⟩ := Option.bind_eq_some_iff.mp subject
    have name := Forest.spelling_of_resolve resolved
    have sites : p.references forest new = forest.references d := by
      rw [Placeholder.references, subject]
      rfl
    rw [sites]
    by_cases used : forest.references d = []
    · exact .inl used
    · refine .inr ⟨n, search, ?_⟩
      rw [name, Option.some.injEq]
      constructor
      · rintro ⟨e, named, same⟩
        rw [Forest.name_eq_of_references_eq small used same, named]
      · exact fun same => ⟨d, same, rfl⟩

def fileOf (text : String) (declarations : List (List BuildCall)) : Option Tree :=
  (Tree.build text (.openHere "file" :: declarations.flatten ++ [.close])).toOption

/-- A file with `f` in its first row. -/
def firstVersion : Tree :=
  (fileOf "f = 1\ng = 2\nh = g" [Forest.valueCalls "f" [.leaf "number_constant_expr" "1"],
    Forest.valueCalls "g" [.leaf "number_constant_expr" "2"],
    Forest.valueCalls "h" (useCalls "g")]).get (by decide +kernel)

/-- The file without `f`. Now `g` stands where `f` stood. -/
def withoutFirst : Tree :=
  (fileOf "g = 2\nh = g" [Forest.valueCalls "g" [.leaf "number_constant_expr" "2"],
    Forest.valueCalls "h" (useCalls "g")]).get (by decide +kernel)

/-- The file with another second row. -/
def withSecond : Tree :=
  (fileOf "f = 1\nh = f" [Forest.valueCalls "f" [.leaf "number_constant_expr" "1"],
    Forest.valueCalls "h" (useCalls "f")]).get (by decide +kernel)

def firstLens : Placeholder := ⟨.referenceCount, "A.elm", "f", true, ⟨⟨0, 0⟩, ⟨0, 5⟩⟩⟩

/-- After `f` is gone, its lens shows the use of `g`. -/
theorem stale_lens_counts_other_name :
    let forest := Forest.empty.insert "A.elm" withoutFirst
    let sites : List Site := [⟨"A.elm", ⟨⟨1, 4⟩, ⟨1, 5⟩⟩⟩]
    firstLens ∈ Discovery.lenses "A.elm" firstVersion ∧
      firstLens.resolve forest false = .ok ⟨"A.elm", firstLens.anchor, "1 reference",
        some (.showReferences firstLens.anchor sites "A.elm")⟩ ∧
      ∀ d, sites = forest.references d → d.name = "g" := by
  intro forest sites
  have found : forest.get? "A.elm" = some withoutFirst := by rw [Forest.get?_insert, if_pos rfl]
  have listed : firstLens.references forest withoutFirst = sites := by decide +kernel
  refine ⟨by decide +kernel, ?_, ?_⟩
  · rw [firstLens.resolve_referenceCount rfl found, listed]
    rfl
  intro d same
  have use : (⟨"A.elm", ⟨⟨1, 4⟩, ⟨1, 5⟩⟩⟩ : Site) ∈ forest.references d :=
    same ▸ List.mem_singleton_self _
  obtain ⟨t, found, n, used, span⟩ := Forest.mem_references.mp use
  rw [Forest.get?_insert, if_pos rfl] at found
  obtain rfl := Option.some.inj found
  have text : ∀ n : withoutFirst.Id, withoutFirst.span n = ⟨⟨1, 4⟩, ⟨1, 5⟩⟩ →
      withoutFirst.text n = "g" := by decide +kernel
  rw [← Forest.text_of_mem_usesIn used, text n span]

/-- While `f` stays in its place, its lens shows the uses of `f`. -/
theorem stale_lens_counts_subject :
    let forest := Forest.empty.insert "A.elm" withSecond
    let sites : List Site := [⟨"A.elm", ⟨⟨1, 4⟩, ⟨1, 5⟩⟩⟩]
    firstLens ∈ Discovery.lenses "A.elm" firstVersion ∧ firstLens.family = .referenceCount ∧
      forest.get? "A.elm" = some withSecond ∧
      (∀ file t, forest.get? file = some t → t.source.Small) ∧
      firstLens.resolve forest false = .ok ⟨"A.elm", firstLens.anchor, "1 reference",
        some (.showReferences firstLens.anchor sites "A.elm")⟩ ∧
      ∃ d, d.name = "f" ∧ sites = forest.references d := by
  intro forest sites
  have discovered : firstLens ∈ Discovery.lenses "A.elm" firstVersion := by decide +kernel
  have found : forest.get? "A.elm" = some withSecond := by rw [Forest.get?_insert, if_pos rfl]
  have small : ∀ file t, forest.get? file = some t → t.source.Small := by
    intro file t found
    rw [Forest.get?_insert] at found
    split at found
    · cases found
      unfold Source.Small
      decide +kernel
    · cases found
  have listed : firstLens.references forest withSecond = sites := by decide +kernel
  have resolved : firstLens.resolve forest false = .ok ⟨"A.elm", firstLens.anchor, "1 reference",
      some (.showReferences firstLens.anchor sites "A.elm")⟩ := by
    rw [firstLens.resolve_referenceCount rfl found, listed]
    rfl
  refine ⟨discovered, rfl, found, small, resolved, ?_⟩
  obtain ⟨shown, lens, counts⟩ := stale_lens_counts_iff discovered rfl found small false
  obtain rfl : sites = shown := by
    simp only [resolved, Except.ok.injEq, ResolvedLens.mk.injEq, Option.some.injEq,
      LensAction.showReferences.injEq] at lens
    exact lens.2.2.2.2.1
  rcases counts with none | ⟨n, search, counts⟩
  · exact absurd none (List.cons_ne_nil _ _)
  · have named : ∀ n : withSecond.Id,
        withSecond.namedDescendantAt withSecond.root ⟨0, 0⟩ = some n →
          spelling n = some "f" := by decide +kernel
    exact counts.mpr (named n search)

end ElmOverlay
