import ElmOverlay.Proofs.ForeignUses
import ElmOverlay.Proofs.LocalEdits
import ElmOverlay.Proofs.Scopes

/-!
Uses of local names. A plain name of a value is local exactly if a scope around it binds it, and
then it means what the nearest of these scopes binds it to. So the uses of a local name are the
plain names that the scopes lead to its declaration, and a name that is bound around its use never
counts for anything outside. A `let` counts here with the names of its function declarations; what
it takes apart by a pattern it does not bind, so such a name is looked for outside.
-/
namespace ElmOverlay

namespace Elm

variable {t : Tree}

/-- A value that is referred to without a qualifier. -/
structure PlainUse (n : t.Id) : Prop where
  refers : Refers .function n
  unqualified : qualifier n = ""

/-- A plain name that the nearest scope to bind it leads to the declaration of a local name. -/
structure LexicalUse (d : Definition) (n : t.Id) : Prop where
  plain : PlainUse n
  text : t.text n = d.name
  bound : ∃ scope b, BoundBy d.name n scope b ∧ t.span b = d.span
  away : t.span n ≠ d.span

theorem refers_function_iff {n : t.Id} : Refers .function n ↔
    t.kind n = "lower_case_identifier" ∧ parentKind n = some "value_qid" := by
  constructor
  · rintro ⟨identifier, parent, place⟩
    exact ⟨identifier, by simp [parentKind, parent, place]⟩
  · rintro ⟨identifier, within⟩
    obtain ⟨owner, parent, place⟩ := Option.map_eq_some_iff.mp within
    exact .value identifier parent place

instance (n : t.Id) : Decidable (PlainUse n) :=
  decidable_of_iff ((t.kind n = "lower_case_identifier" ∧ parentKind n = some "value_qid") ∧
      qualifier n = "")
    ⟨fun ⟨refers, unqualified⟩ => ⟨refers_function_iff.mpr refers, unqualified⟩,
      fun ⟨refers, unqualified⟩ => ⟨refers_function_iff.mp refers, unqualified⟩⟩

theorem lexicalUse_iff {d : Definition} {n : t.Id} : LexicalUse d n ↔
    PlainUse n ∧ t.text n = d.name ∧
      (∃ b, enclosingBinder d.name n = some b ∧ t.span b = d.span) ∧ t.span n ≠ d.span := by
  simp only [enclosingBinder_eq_some_iff]
  constructor
  · rintro ⟨plain, text, ⟨scope, b, bound, same⟩, away⟩
    exact ⟨plain, text, ⟨b, ⟨scope, bound⟩, same⟩, away⟩
  · rintro ⟨plain, text, ⟨b, ⟨scope, bound⟩, same⟩, away⟩
    exact ⟨plain, text, ⟨scope, b, bound, same⟩, away⟩

instance (d : Definition) (n : t.Id) : Decidable (LexicalUse d n) :=
  decidable_of_iff (PlainUse n ∧ t.text n = d.name ∧
      ((enclosingBinder d.name n).any fun b => t.span b = d.span) = true ∧ t.span n ≠ d.span) <| by
    simp only [lexicalUse_iff, Option.any_eq_true, decide_eq_true_eq]

/-- A use stands with the binder in one scope, and no scope in between binds the name again. -/
theorem LexicalUse.inScope {d : Definition} {n : t.Id} (use : LexicalUse d n) :
    ∃ scope b, t.span b = d.span ∧ Binds d.name scope b ∧
      n ∈ t.descendants scope ∧ b ∈ t.descendants scope ∧
        ∀ s ∈ t.descendants scope, s ≠ scope → n ∈ t.descendants s →
          ∀ c, ¬ Binds d.name s c := by
  obtain ⟨scope, b, bound, same⟩ := use.bound
  have around := (Tree.mem_ancestors_iff.mp bound.around).1
  have binds := bound.binds
  refine ⟨scope, b, same, binds, Tree.mem_descendants_iff.mpr around,
    Tree.mem_descendants_iff.mpr binds.below, ?_⟩
  intro s inside proper holds c rebinds
  have below := Tree.mem_descendants_iff.mp holds
  rcases Nat.lt_or_eq_of_le below.le with less | here
  · exact bound.free_between (Tree.mem_descendants_iff.mp inside) proper
      (Tree.mem_ancestors_iff.mpr ⟨below, less⟩) c rebinds
  · -- The use is an identifier and no scope itself.
    obtain rfl := Fin.ext here
    have kind := rebinds.kind
    rw [(refers_function_iff.mp use.plain.refers).1] at kind
    simp at kind

end Elm

open Elm

namespace Forest

variable {forest : Forest} {file : FileId} {t : Tree}

/-- What a plain name of a value means where no scope binds it. -/
def unscoped (forest : Forest) (file : FileId) (t : Tree) (name : String) : Option Definition :=
  (topLevel file t name .function).or ((imports t).findSome? (forest.exposedByImport name .function))

/-! ### Only scopes answer with local names -/

theorem kind_unscoped {name : String} {d : Definition}
    (h : forest.unscoped file t name = some d) : d.kind = .function := by
  rcases Option.or_eq_some_iff.mp h with found | ⟨-, first⟩
  · exact kind_topLevel found
  · obtain ⟨_, -, _, -, imported⟩ := exists_open_import first
    exact kind_importedName imported

/-! ### Plain names -/

theorem resolve_plain {n : t.Id} (plain : PlainUse n) : forest.resolve file n =
    ((enclosingBinder (t.text n) n).map (Definition.ofNode file · .localName)).or
      (forest.unscoped file t (t.text n)) := by
  rw [resolve_of_refers plain.refers]
  simp [resolveReference, plain.unqualified, resolveUnqualified, unscoped, Option.or_assoc]

theorem resolve_of_boundBy {n scope b : t.Id} (plain : PlainUse n)
    (bound : BoundBy (t.text n) n scope b) :
    forest.resolve file n = some (.ofNode file b .localName) := by
  rw [resolve_plain plain, enclosingBinder_eq_some_iff.mpr ⟨scope, bound⟩]
  rfl

theorem resolve_of_free {n : t.Id} (plain : PlainUse n)
    (free : ∀ scope ∈ t.ancestors n, ∀ b, ¬ Binds (t.text n) scope b) :
    forest.resolve file n = forest.unscoped file t (t.text n) := by
  rw [resolve_plain plain, enclosingBinder_eq_none_iff.mpr free]
  rfl

theorem boundBy_of_resolve {n : t.Id} {d : Definition} (plain : PlainUse n)
    (isLocal : d.kind = .localName) (h : forest.resolve file n = some d) :
    ∃ scope b, BoundBy (t.text n) n scope b ∧ d = .ofNode file b .localName := by
  rw [resolve_plain plain] at h
  rcases Option.or_eq_some_iff.mp h with local' | ⟨-, outside⟩
  · obtain ⟨b, bound, rfl⟩ := Option.map_eq_some_iff.mp local'
    obtain ⟨scope, bound⟩ := enclosingBinder_eq_some_iff.mp bound
    exact ⟨scope, b, bound, rfl⟩
  · cases isLocal.symm.trans (kind_unscoped outside)

/-! ### Uses of a local name -/

theorem plainUse_of_resolve {n : t.Id} {d : Definition} (isLocal : d.kind = .localName)
    (identifier : t.kind n ∈ identifierKinds) (away : ¬(file = d.file ∧ t.span n = d.span))
    (outside : parentKind n ≠ some "type_annotation") (h : forest.resolve file n = some d) :
    PlainUse n := by
  rcases resolve_identifier_cases identifier h with ⟨lower, found⟩ | ⟨-, found⟩ | ⟨-, found⟩
  · cases resolveLower_route found with
    | declared parent place found =>
      rcases functionDefinition_eq_some found with rfl | rfl
      · exact absurd ⟨rfl, rfl⟩ away
      · exact absurd ⟨rfl, rfl⟩ away
    | pattern parent place same =>
      subst same
      exact absurd ⟨rfl, rfl⟩ away
    | signature parent place named same found =>
      exact absurd (by simp [parentKind, parent, place]) outside
    | reference parent place found =>
      refine ⟨.value lower parent place, Decidable.byContradiction fun qualified => ?_⟩
      have elsewhere : forest.resolveQualified file t (qualifier n) (t.text n) .function =
          some d := by
        simpa [resolveReference, qualified] using found
      cases isLocal.symm.trans (kind_resolveQualified elsewhere)
  · rcases resolveUpper_answers found with answers | isModule
    · rcases answers.kind_eq with isType | ⟨wrong, -⟩
      · cases isLocal.symm.trans isType
      · cases wrong
    · cases isLocal.symm.trans isModule
  · cases isLocal.symm.trans (kind_resolveExposed found)

theorem mem_usesIn_local {n : t.Id} {d : Definition} (isLocal : d.kind = .localName) :
    n ∈ forest.usesIn d file t ↔ file = d.file ∧ LexicalUse d n := by
  have noModule : d.kind ≠ .moduleName := by simp [isLocal]
  rw [mem_usesIn noModule]
  constructor
  · rintro ⟨identifier, found, away, outside⟩
    have plain := plainUse_of_resolve isLocal identifier away outside found
    obtain ⟨scope, b, bound, same⟩ := boundBy_of_resolve plain isLocal found
    have home : file = d.file := by rw [same, Definition.file_ofNode]
    have text : t.text n = d.name := by rw [same, Definition.name_ofNode, bound.binds.text]
    have place : t.span b = d.span := by rw [same, Definition.span_ofNode]
    exact ⟨home, plain, text, ⟨scope, b, text ▸ bound, place⟩, fun here => away ⟨home, here⟩⟩
  · rintro ⟨rfl, use⟩
    obtain ⟨scope, b, bound, same⟩ := use.bound
    have home : d = .ofNode d.file b .localName := by
      calc d = ⟨d.file, d.name, d.kind, d.span⟩ := rfl
        _ = ⟨d.file, t.text b, .localName, t.span b⟩ := by rw [bound.binds.text, isLocal, same]
        _ = .ofNode d.file b .localName := rfl
    have found : forest.resolve d.file n = some d := by
      rw [← use.text] at bound
      rw [resolve_of_boundBy use.plain bound, ← home]
    obtain ⟨identifier, within⟩ := refers_function_iff.mp use.plain.refers
    exact ⟨by simp [identifierKinds, identifier], found, fun here => use.away here.2,
      by simp [within]⟩

theorem usesIn_local {d : Definition} (isLocal : d.kind = .localName) (t : Tree) :
    forest.usesIn d d.file t = t.ids.filter fun n => LexicalUse d n := by
  have noModule : d.kind ≠ .moduleName := by simp [isLocal]
  rw [usesIn_eq_filter noModule]
  apply List.filter_congr
  intro n listed
  have member : n ∈ forest.usesIn d d.file t ↔ d.file = d.file ∧ LexicalUse d n :=
    mem_usesIn_local isLocal
  rw [usesIn_eq_filter noModule, List.mem_filter] at member
  rw [Bool.eq_iff_iff, decide_eq_true_eq]
  simpa [listed] using member

theorem references_local {d : Definition} (isLocal : d.kind = .localName) :
    forest.references d = (forest.get? d.file).elim [] fun t =>
      (t.ids.filter fun n => LexicalUse d n).map fun n => ⟨d.file, t.span n⟩ := by
  have home : ((forest.references d).filter fun site => site.file = d.file) =
      forest.references d := by
    rw [List.filter_eq_self]
    intro site use
    obtain ⟨t, -, n, used, -⟩ := mem_references.mp use
    exact decide_eq_true ((mem_usesIn_local isLocal).mp used).1
  rw [← home, filter_references forest d (· = d.file), filter_entries]
  cases forest.get? d.file with
  | none => rfl
  | some t => simp [sitesIn, usesIn_local isLocal]

/-- The uses of a local name are, in their order, the plain names of its file that the nearest
scope to bind them leads to its declaration. Each stands with the declaration in one scope, and no
scope in between binds the name again. A plain name that some scope around it binds is a use of
local names only. -/
theorem local_uses_lexical {d : Definition} (isLocal : d.kind = .localName) :
    (forest.references d = (forest.get? d.file).elim [] fun t =>
      (t.ids.filter fun n => LexicalUse d n).map fun n => ⟨d.file, t.span n⟩) ∧
    (∀ (t : Tree) (n : t.Id), LexicalUse d n →
      ∃ scope b, t.span b = d.span ∧ Binds d.name scope b ∧
        n ∈ t.descendants scope ∧ b ∈ t.descendants scope ∧
          ∀ s ∈ t.descendants scope, s ≠ scope → n ∈ t.descendants s →
            ∀ c, ¬ Binds d.name s c) ∧
    ∀ (file : FileId) (t : Tree) (n : t.Id) (e : Definition), PlainUse n →
      (∃ scope ∈ t.ancestors n, ∃ b, Binds (t.text n) scope b) →
      n ∈ forest.usesIn e file t → e.kind = .localName := by
  refine ⟨references_local isLocal, fun t n use => use.inScope, ?_⟩
  rintro file t n e plain ⟨scope, around, b, binds⟩ use
  obtain ⟨s, c, bound⟩ := exists_boundBy around binds
  by_cases isModule : e.kind = .moduleName
  · rw [usesIn, if_pos isModule] at use
    have dotted := kind_of_mem_importsOf use
    rw [(refers_function_iff.mp plain.refers).1] at dotted
    exact absurd dotted (by decide)
  · obtain ⟨-, found, -⟩ := (mem_usesIn isModule).mp use
    rw [resolve_of_boundBy plain bound] at found
    obtain rfl := Option.some.inj found
    exact Definition.kind_ofNode file c .localName

def lambdaCalls : List BuildCall :=
  List.flatten [[.openHere "file", .openHere "value_declaration",
    .openHere "function_declaration_left", .leaf "lower_case_identifier" "f",
    .openHere "lower_pattern", .leaf "lower_case_identifier" "x", .close, .close, .token "=",
    .openHere "function_call_expr"], useCalls "g", [.token "(",
    .openHere "anonymous_function_expr", .token "\\", .openHere "pattern",
    .openHere "lower_pattern", .leaf "lower_case_identifier" "x", .close, .close, .token "->"],
    useCalls "x", [.close, .token ")"], useCalls "x", [.close, .close, .close]]

/-- A function of `x`, with a lambda in it that binds `x` once more. -/
def lambdaFile : Tree :=
  (Tree.build "f x = g (\\x -> x) x" lambdaCalls).toOption.get (by decide +kernel)

def lambdaNode (i : Fin 22) : lambdaFile.Id := i.cast (by decide +kernel)

/-- The parameter is used behind the lambda. The `x` inside is a use of local names only. -/
theorem parameter_uses_lexical :
    let forest := empty.insert "A.elm" lambdaFile
    let parameter : Definition := ⟨"A.elm", "x", .localName, ⟨⟨0, 2⟩, ⟨0, 3⟩⟩⟩
    parameter.kind = .localName ∧
      forest.references parameter = [⟨"A.elm", ⟨⟨0, 18⟩, ⟨0, 19⟩⟩⟩] ∧
      LexicalUse parameter (lambdaNode 21) ∧
      (∃ scope b, lambdaFile.span b = parameter.span ∧ Binds "x" scope b ∧
        lambdaNode 21 ∈ lambdaFile.descendants scope ∧ b ∈ lambdaFile.descendants scope) ∧
      PlainUse (lambdaNode 18) ∧ Binds "x" (lambdaNode 11) (lambdaNode 15) ∧
      ∀ e, lambdaNode 18 ∈ forest.usesIn e "A.elm" lambdaFile → e.kind = .localName := by
  intro forest parameter
  have isLocal : parameter.kind = .localName := rfl
  have ⟨listed, use, plain, text, around, binder⟩ :
      ((forest.get? "A.elm").elim [] fun t =>
        (t.ids.filter fun n => LexicalUse parameter n).map fun n => (⟨"A.elm", t.span n⟩ : Site)) =
          [⟨"A.elm", ⟨⟨0, 18⟩, ⟨0, 19⟩⟩⟩] ∧
      LexicalUse parameter (lambdaNode 21) ∧ PlainUse (lambdaNode 18) ∧
      lambdaFile.text (lambdaNode 18) = "x" ∧
      lambdaNode 11 ∈ lambdaFile.ancestors (lambdaNode 18) ∧
      scopeBinder "x" (lambdaNode 11) = some (lambdaNode 15) := by
    decide +kernel
  have binds := scopeBinder_eq_some_iff.mp binder
  obtain ⟨sites, inScope, inner⟩ := @local_uses_lexical forest parameter isLocal
  obtain ⟨scope, b, place, bound, below, within, -⟩ := inScope lambdaFile _ use
  refine ⟨isLocal, sites.trans listed, use, ⟨scope, b, place, bound, below, within⟩, plain, binds,
    ?_⟩
  intro e used
  exact inner "A.elm" lambdaFile _ e plain ⟨_, around, _, text ▸ binds⟩ used

/-! ### Names of a let -/

/-- A plain name inside a `let` is local exactly if a function declaration of the `let` or another
scope around the name binds it. Where a pattern of the `let` has the name, that does not matter: a
name that is not local means what it would mean without any scope. -/
theorem let_shadows_iff {n scope : t.Id} (plain : PlainUse n) (inside : scope ∈ t.ancestors n)
    (isLet : t.kind scope = "let_in_expr") :
    ((∃ d, forest.resolve file n = some d ∧ d.kind = .localName ∧ d.file = file) ↔
      (∃ declaration ∈ t.namedChildren scope, ∃ b, functionName declaration = some b ∧
        t.text b = t.text n) ∨
      ∃ other ∈ t.ancestors n, other ≠ scope ∧ ∃ b, Binds (t.text n) other b) ∧
    ((∀ d, forest.resolve file n = some d → d.kind ≠ .localName) →
      forest.resolve file n = forest.unscoped file t (t.text n)) := by
  rw [← exists_binds_let_iff isLet]
  have local_of_binds {s b : t.Id} (around : s ∈ t.ancestors n) (binds : Binds (t.text n) s b) :
      ∃ d, forest.resolve file n = some d ∧ d.kind = .localName ∧ d.file = file := by
    obtain ⟨_, c, bound⟩ := exists_boundBy around binds
    exact ⟨_, resolve_of_boundBy plain bound, Definition.kind_ofNode .., Definition.file_ofNode ..⟩
  constructor
  · constructor
    · rintro ⟨d, found, isLocal, -⟩
      obtain ⟨s, b, bound, -⟩ := boundBy_of_resolve plain isLocal found
      by_cases here : s = scope
      · exact .inl ⟨b, here ▸ bound.binds⟩
      · exact .inr ⟨s, bound.around, here, b, bound.binds⟩
    · rintro (⟨b, binds⟩ | ⟨other, around, -, b, binds⟩)
      · exact local_of_binds inside binds
      · exact local_of_binds around binds
  · intro outside
    apply resolve_of_free plain
    intro s around b binds
    obtain ⟨d, found, isLocal, -⟩ := local_of_binds around binds
    exact outside d found isLocal

def pairCalls : List BuildCall :=
  List.flatten [[.openHere "file"], valueCalls "a" [.leaf "number_constant_expr" "1"],
    valueCalls "b" [.leaf "number_constant_expr" "2"],
    valueCalls "x" (List.flatten [[.openHere "let_in_expr", .token "let",
      .openHere "value_declaration", .openHere "pattern", .openHere "tuple_pattern", .token "(",
      .openHere "lower_pattern", .leaf "lower_case_identifier" "a", .close, .token ",",
      .openHere "lower_pattern", .leaf "lower_case_identifier" "c", .close, .token ")", .close,
      .close, .token "="], useCalls "p", [.close],
      valueCalls "b" [.leaf "number_constant_expr" "3"],
      [.token "in", .openHere "function_call_expr"], useCalls "f", useCalls "a", useCalls "b",
      [.close, .close]]), [.close]]

/-- `a` and `b` are declared at the top level and once more in a `let`, `a` by a pattern and `b` by
a function declaration. -/
def pairFile : Tree :=
  (Tree.build "a = 1\nb = 2\nx = let (a, c) = p\n        b = 3 in f a b" pairCalls).toOption.get
    (by decide +kernel)

def pairNode (i : Fin 43) : pairFile.Id := i.cast (by decide +kernel)

theorem pairFile_shape :
    PlainUse (pairNode 40) ∧ pairFile.text (pairNode 40) = "a" ∧
      pairNode 15 ∈ pairFile.ancestors (pairNode 40) ∧
      pairFile.kind (pairNode 15) = "let_in_expr" ∧
      (empty.insert "A.elm" pairFile).resolve "A.elm" (pairNode 40) =
        some ⟨"A.elm", "a", .function, ⟨⟨0, 0⟩, ⟨0, 1⟩⟩⟩ := by
  decide +kernel

/-- The `a` in the body of the `let` is the one of the top level. The `a` of the pattern, the only
one that a node around the body declares, has no uses. -/
theorem destructured_name_escapes :
    let forest := empty.insert "A.elm" pairFile
    PlainUse (pairNode 40) ∧ pairFile.text (pairNode 40) = "a" ∧
      pairNode 15 ∈ pairFile.ancestors (pairNode 40) ∧
      pairFile.kind (pairNode 15) = "let_in_expr" ∧
      pairNode 17 ∈ pairFile.namedChildren (pairNode 15) ∧
      pairFile.kind (pairNode 17) = "value_declaration" ∧
      pairFile.childOfKind (pairNode 17) "function_declaration_left" = none ∧
      pairFile.childOfKind (pairNode 17) "pattern" = some (pairNode 18) ∧
      patternBinder "a" (pairNode 18) = some (pairNode 22) ∧
      (∀ s ∈ pairFile.ancestors (pairNode 40), scopeBinder "a" s = none) ∧
      forest.resolve "A.elm" (pairNode 40) =
        some ⟨"A.elm", "a", .function, ⟨⟨0, 0⟩, ⟨0, 1⟩⟩⟩ ∧
      forest.references (.ofNode "A.elm" (pairNode 22) .localName) = [] := by
  intro forest
  have ⟨plain, text, inside, isLet, outside⟩ := pairFile_shape
  have ⟨child, isValue, noFunction, byPattern, declared, free, unused⟩ :
      pairNode 17 ∈ pairFile.namedChildren (pairNode 15) ∧
      pairFile.kind (pairNode 17) = "value_declaration" ∧
      pairFile.childOfKind (pairNode 17) "function_declaration_left" = none ∧
      pairFile.childOfKind (pairNode 17) "pattern" = some (pairNode 18) ∧
      patternBinder "a" (pairNode 18) = some (pairNode 22) ∧
      (∀ s ∈ pairFile.ancestors (pairNode 40), scopeBinder "a" s = none) ∧
      forest.references (.ofNode "A.elm" (pairNode 22) .localName) = [] := by
    decide +kernel
  exact ⟨plain, text, inside, isLet, child, isValue, noFunction, byPattern, declared, free,
    outside, unused⟩

/-- The `b` in the body of the `let` is the one of the `let`, and the `a` is not. -/
theorem let_function_shadows :
    let forest := empty.insert "A.elm" pairFile
    PlainUse (pairNode 42) ∧ pairNode 15 ∈ pairFile.ancestors (pairNode 42) ∧
      pairFile.kind (pairNode 15) = "let_in_expr" ∧
      (∃ d, forest.resolve "A.elm" (pairNode 42) = some d ∧ d.kind = .localName ∧
        d.file = "A.elm") ∧
      PlainUse (pairNode 40) ∧ pairNode 15 ∈ pairFile.ancestors (pairNode 40) ∧
      forest.resolve "A.elm" (pairNode 40) = forest.unscoped "A.elm" pairFile "a" := by
  intro forest
  have ⟨plain', text, inside', isLet, outside⟩ := pairFile_shape
  have ⟨plain, inside, child, named, same⟩ : PlainUse (pairNode 42) ∧
      pairNode 15 ∈ pairFile.ancestors (pairNode 42) ∧
      pairNode 30 ∈ pairFile.namedChildren (pairNode 15) ∧
      functionName (pairNode 30) = some (pairNode 32) ∧
      pairFile.text (pairNode 32) = pairFile.text (pairNode 42) := by
    decide +kernel
  refine ⟨plain, inside, isLet, ?_, plain', inside', ?_⟩
  · exact (let_shadows_iff plain inside isLet).1.mpr (.inl ⟨_, child, _, named, same⟩)
  · rw [← text]
    refine (let_shadows_iff plain' inside' isLet).2 ?_
    intro d found isLocal
    rw [outside] at found
    cases found
    cases isLocal

end Forest

end ElmOverlay
