import ElmOverlay.Proofs.PreOrder
import ElmOverlay.Proofs.Routes

/-!
Local scopes. Nodes of four kinds bind names for what stands below them: a value declaration binds
its parameters, a `let` the names of its function declarations, a branch and a lambda the variables
of their patterns. A name means what the nearest scope around it binds it to, out of those that
bind it at all.
-/
namespace ElmOverlay.Elm

variable {t : Tree}

/-- The first variable with a name in a row of patterns, in the order of the source. -/
def FirstVariable (name : String) (patterns : List t.Id) (b : t.Id) : Prop :=
  ∃ front back, patterns.flatMap t.descendants = front ++ b :: back ∧
    isPatternBinder name b = true ∧ ∀ c ∈ front, isPatternBinder name c = false

/-- A scope, as a node of its kind, binds a name at a node. -/
inductive Binds (name : String) : t.Id → t.Id → Prop
  | parameter {scope left b : t.Id} (isValue : t.kind scope = "value_declaration")
      (head : t.childOfKind scope "function_declaration_left" = some left)
      (first : FirstVariable name [left] b) : Binds name scope b
  | letName {scope b : t.Id} {front back : List t.Id} (isLet : t.kind scope = "let_in_expr")
      (declared : (t.namedChildren scope).filterMap functionName = front ++ b :: back)
      (same : t.text b = name) (first : ∀ c ∈ front, t.text c ≠ name) : Binds name scope b
  | branch {scope pattern b : t.Id} (isBranch : t.kind scope = "case_of_branch")
      (head : (t.namedChildren scope).head? = some pattern)
      (first : FirstVariable name [pattern] b) : Binds name scope b
  | lambda {scope b : t.Id} (isLambda : t.kind scope = "anonymous_function_expr")
      (first : FirstVariable name (t.namedChildren scope).dropLast b) : Binds name scope b

/-- `scope` is the nearest scope around `n` that binds a name, and it binds the name at `b`. -/
def BoundBy (name : String) (n scope b : t.Id) : Prop :=
  ∃ inner outer, t.ancestors n = inner ++ scope :: outer ∧ Binds name scope b ∧
    ∀ s ∈ inner, ∀ c, ¬ Binds name s c

/-! ### What a scope binds -/

theorem find?_flatMap_eq_some_iff {name : String} {patterns : List t.Id} {b : t.Id} :
    (patterns.flatMap t.descendants).find? (isPatternBinder name) = some b ↔
      FirstVariable name patterns b := by
  rw [List.find?_eq_some_iff_append]
  constructor
  · rintro ⟨binds, front, back, split, none⟩
    exact ⟨front, back, split, binds, fun c hc => by simpa using none c hc⟩
  · rintro ⟨front, back, split, binds, none⟩
    exact ⟨binds, front, back, split, fun c hc => by simp [none c hc]⟩

theorem patternBinder_eq_some_iff {name : String} {pattern b : t.Id} :
    patternBinder name pattern = some b ↔ FirstVariable name [pattern] b := by
  rw [← find?_flatMap_eq_some_iff, List.flatMap_singleton, patternBinder]

theorem findSome?_patternBinder_eq_some_iff {name : String} {patterns : List t.Id} {b : t.Id} :
    patterns.findSome? (patternBinder name) = some b ↔ FirstVariable name patterns b := by
  rw [← find?_flatMap_eq_some_iff, List.find?_flatMap]
  rfl

theorem scopeBinder_eq_some_iff {name : String} {scope b : t.Id} :
    scopeBinder name scope = some b ↔ Binds name scope b := by
  constructor
  · intro h
    unfold scopeBinder at h
    split at h
    next isValue =>
      obtain ⟨left, head, bound⟩ := Option.bind_eq_some_iff.mp h
      exact .parameter isValue head (patternBinder_eq_some_iff.mp bound)
    next isLet =>
      obtain ⟨same, front, back, declared, first⟩ := List.find?_eq_some_iff_append.mp h
      exact .letName isLet declared (by simpa using same) (by simpa using first)
    next isBranch =>
      obtain ⟨pattern, head, bound⟩ := Option.bind_eq_some_iff.mp h
      exact .branch isBranch head (patternBinder_eq_some_iff.mp bound)
    next isLambda => exact .lambda isLambda (findSome?_patternBinder_eq_some_iff.mp h)
    next => cases h
  · intro binds
    cases binds with
    | parameter isValue head first =>
      simp [scopeBinder, isValue, head, patternBinder_eq_some_iff.mpr first]
    | letName isLet declared same first =>
      have found : ((t.namedChildren scope).filterMap functionName).find?
          (fun n => t.text n = name) = some b :=
        List.find?_eq_some_iff_append.mpr
          ⟨by simpa using same, _, _, declared, by simpa using first⟩
      simpa [scopeBinder, isLet] using found
    | branch isBranch head first =>
      simp [scopeBinder, isBranch, head, patternBinder_eq_some_iff.mpr first]
    | lambda isLambda first =>
      simp [scopeBinder, isLambda, findSome?_patternBinder_eq_some_iff.mpr first]

theorem Binds.text {name : String} {scope b : t.Id} (binds : Binds name scope b) :
    t.text b = name :=
  text_scopeBinder (scopeBinder_eq_some_iff.mpr binds)

theorem Binds.kind {name : String} {scope b : t.Id} (binds : Binds name scope b) :
    t.kind scope ∈ ["value_declaration", "let_in_expr", "case_of_branch",
      "anonymous_function_expr"] := by
  cases binds with
  | parameter isValue => simp [isValue]
  | letName isLet => simp [isLet]
  | branch isBranch => simp [isBranch]
  | lambda isLambda => simp [isLambda]

/-- A `let` binds the names of its function declarations, and no others. -/
theorem exists_binds_let_iff {name : String} {scope : t.Id} (isLet : t.kind scope = "let_in_expr") :
    (∃ b, Binds name scope b) ↔
      ∃ declaration ∈ t.namedChildren scope, ∃ b, functionName declaration = some b ∧
        t.text b = name := by
  simp only [← scopeBinder_eq_some_iff, ← Option.isSome_iff_exists]
  simp only [scopeBinder, isLet, List.find?_isSome, List.mem_filterMap, decide_eq_true_eq]
  constructor
  · rintro ⟨b, ⟨declaration, child, named⟩, same⟩
    exact ⟨declaration, child, b, named, same⟩
  · rintro ⟨declaration, child, b, named, same⟩
    exact ⟨b, ⟨declaration, child, named⟩, same⟩

/-! ### Binders stand in their scopes -/

theorem below_of_namedChild {p n : t.Id} (child : n ∈ t.namedChildren p) : Tree.Below p n :=
  .down (Tree.mem_namedChildren.mp child).1 (.here n)

theorem FirstVariable.below {name : String} {patterns : List t.Id} {b scope : t.Id}
    (first : FirstVariable name patterns b) (inside : ∀ p ∈ patterns, Tree.Below scope p) :
    Tree.Below scope b := by
  obtain ⟨front, back, split, -⟩ := first
  have listed : b ∈ patterns.flatMap t.descendants := by simp [split]
  obtain ⟨p, pattern, below⟩ := List.mem_flatMap.mp listed
  exact (inside p pattern).trans (Tree.mem_descendants_iff.mp below)

theorem Binds.below {name : String} {scope b : t.Id} (binds : Binds name scope b) :
    Tree.Below scope b := by
  have child {n c : t.Id} {kind : String} (h : t.childOfKind n kind = some c) : Tree.Below n c :=
    .down (Tree.childOfKind_eq_some h).1 (.here c)
  cases binds with
  | parameter isValue head first =>
    exact first.below fun p hp => List.mem_singleton.mp hp ▸ child head
  | letName isLet declared same first =>
    have listed : b ∈ (t.namedChildren scope).filterMap functionName := by simp [declared]
    obtain ⟨declaration, inside, named⟩ := List.mem_filterMap.mp listed
    obtain ⟨-, left, hleft, hname⟩ := functionName_eq_some named
    exact (below_of_namedChild inside).trans ((child hleft).trans (child hname))
  | branch isBranch head first =>
    exact first.below fun p hp =>
      List.mem_singleton.mp hp ▸ below_of_namedChild (List.mem_of_head? head)
  | lambda isLambda first =>
    exact first.below fun p hp => below_of_namedChild (List.dropLast_subset _ hp)

/-! ### The nearest scope -/

theorem enclosingBinder_eq_some_iff {name : String} {n b : t.Id} :
    enclosingBinder name n = some b ↔ ∃ scope, BoundBy name n scope b := by
  rw [enclosingBinder, List.findSome?_eq_some_iff]
  constructor
  · rintro ⟨inner, scope, outer, split, bound, free⟩
    refine ⟨scope, inner, outer, split, scopeBinder_eq_some_iff.mp bound, ?_⟩
    intro s hs c binds
    cases (free s hs).symm.trans (scopeBinder_eq_some_iff.mpr binds)
  · rintro ⟨scope, inner, outer, split, binds, free⟩
    refine ⟨inner, scope, outer, split, scopeBinder_eq_some_iff.mpr binds, ?_⟩
    intro s hs
    rw [Option.eq_none_iff_forall_ne_some]
    intro c bound
    exact free s hs c (scopeBinder_eq_some_iff.mp bound)

theorem enclosingBinder_eq_none_iff {name : String} {n : t.Id} :
    enclosingBinder name n = none ↔ ∀ scope ∈ t.ancestors n, ∀ b, ¬ Binds name scope b := by
  rw [enclosingBinder, List.findSome?_eq_none_iff]
  simp only [Option.eq_none_iff_forall_ne_some, ne_eq, scopeBinder_eq_some_iff]

/-- Of the scopes around a node that bind a name, one is the nearest. -/
theorem exists_boundBy {name : String} {n scope b : t.Id} (around : scope ∈ t.ancestors n)
    (binds : Binds name scope b) : ∃ s c, BoundBy name n s c := by
  cases nearest : enclosingBinder name n with
  | none => exact absurd binds (enclosingBinder_eq_none_iff.mp nearest scope around b)
  | some c =>
    obtain ⟨s, bound⟩ := enclosingBinder_eq_some_iff.mp nearest
    exact ⟨s, c, bound⟩

theorem BoundBy.binds {name : String} {n scope b : t.Id} (bound : BoundBy name n scope b) :
    Binds name scope b := by
  obtain ⟨_, _, -, binds, -⟩ := bound
  exact binds

theorem BoundBy.around {name : String} {n scope b : t.Id} (bound : BoundBy name n scope b) :
    scope ∈ t.ancestors n := by
  obtain ⟨inner, outer, split, -⟩ := bound
  simp [split]

/-- No scope below the nearest one, and around the node, binds the name. -/
theorem BoundBy.free_between {name : String} {n scope b s : t.Id}
    (bound : BoundBy name n scope b) (below : Tree.Below scope s) (proper : s ≠ scope)
    (around : s ∈ t.ancestors n) (c : t.Id) : ¬ Binds name s c := by
  obtain ⟨inner, outer, split, -, free⟩ := bound
  have descend := Tree.ancestors_descend n
  rw [split] at around descend
  rw [List.pairwise_append, List.pairwise_cons] at descend
  rcases List.mem_append.mp around with near | far
  · exact free s near c
  · rcases List.mem_cons.mp far with same | beyond
    · exact absurd same proper
    · exact absurd (descend.2.1.1 s beyond) (Nat.not_lt_of_le below.le)

end ElmOverlay.Elm
