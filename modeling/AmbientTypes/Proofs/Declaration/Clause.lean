import AmbientTypes.Declaration.Clause
import AmbientTypes.Proofs.Declaration.Directive

namespace AmbientTypes.Declaration

/-- A clause for a module, written in the quotes of the mark. -/
inductive IsClause (name : List Char) : Char → List Char → Prop where
  | written {mark : Char} {gap gap' : List Char} (quote : isNameMark mark = true)
      (some : gap ≠ []) (blank : ∀ c ∈ gap, Text.isBlank c = true)
      (some' : gap' ≠ []) (blank' : ∀ c ∈ gap', Text.isBlank c = true) :
      IsClause name mark
        ("declare".toList ++ (gap ++ ("module".toList ++ (gap' ++ mark :: (name ++ [mark])))))

/-- A text that declares a module, in some quotes. -/
def DeclaresModule (name text : String) : Prop :=
  ∃ mark clause, IsClause name.toList mark clause ∧ clause <:+: text.toList

variable {p : Char → Bool} {cs rest name clause : List Char} {mark : Char}

/-- What is read at the beginning of a text is a clause, and each clause is read. -/
theorem afterClause?_eq_some_iff :
    afterClause? name cs = some (mark, rest) ↔
      ∃ clause, IsClause name mark clause ∧ cs = clause ++ rest := by
  have letter : ∀ tail, ∀ c ∈ ("module".toList ++ tail).head?, Text.isBlank c = false := by
    simp
    decide
  have quoted : ∀ {mark} tail, isNameMark mark = true →
      ∀ c ∈ (mark :: tail).head?, Text.isBlank c = false := by
    intro mark tail quote c first
    obtain rfl : mark = c := by simpa using first
    simp only [isNameMark, Bool.or_eq_true, decide_eq_true_eq] at quote
    rcases quote with (rfl | rfl) | rfl <;> decide
  simp only [afterClause?, Option.bind_eq_bind, Option.bind_eq_some_iff,
    List.isPrefixOf?_eq_some_iff_append_eq]
  constructor
  · intro h
    obtain ⟨a, rfl, b, gap, c, rfl, d, gap', h⟩ := h
    obtain ⟨gap, some, blank, rfl⟩ := (dropSome_eq_some_iff (letter c)).mp gap
    split at h
    · cases h
    · next mark' tail =>
      simp only [Option.ite_none_right_eq_some, Option.bind_eq_some_iff, Option.some.injEq,
        Prod.mk.injEq, List.isPrefixOf?_eq_some_iff_append_eq] at h
      obtain ⟨quote, tail, rfl, rfl, rfl⟩ := h
      obtain ⟨gap', some', blank', rfl⟩ := (dropSome_eq_some_iff (quoted _ quote)).mp gap'
      exact ⟨_, .written quote some blank some' blank', by simp⟩
  · intro h
    obtain ⟨clause, ⟨quote, some, blank, some', blank'⟩, rfl⟩ := h
    refine ⟨_, List.append_assoc _ _ _ |>.symm, _, (dropSome_eq_some_iff ?_).mpr
      ⟨_, some, blank, List.append_assoc _ _ _⟩, _, List.append_assoc _ _ _ |>.symm, _,
      (dropSome_eq_some_iff ?_).mpr ⟨_, some', blank', List.append_assoc _ _ _⟩, ?_⟩
    · rw [List.append_assoc]
      exact letter _
    · exact quoted _ quote
    · have read : (name ++ [mark]).isPrefixOf? (name ++ mark :: rest) = Option.some rest := by simp
      simp [quote, read]

theorem IsClause.ne_nil (written : IsClause name mark clause) : clause ≠ [] := by
  cases written
  simp

theorem pieces_append (written : IsClause name mark clause) (rest : List Char) :
    pieces name (clause ++ rest) = .clause ⟨clause, mark⟩ :: pieces name rest := by
  have read := afterClause?_eq_some_iff.mpr ⟨clause, written, @rfl _ (clause ++ rest)⟩
  obtain ⟨c, more, whole⟩ := List.exists_cons_of_ne_nil written.ne_nil
  subst whole
  rw [List.cons_append] at read ⊢
  rw [pieces.eq_def]
  dsimp only
  split
  · next mark' after read' =>
    obtain ⟨rfl, rfl⟩ := Prod.mk.inj (Option.some.inj (read'.symm.trans read))
    have size : (c :: (more ++ after)).length - after.length = (c :: more).length := by
      simp only [List.length_cons, List.length_append]
      omega
    rw [size, ← List.cons_append, List.take_left]
  · next none =>
    rw [read] at none
    cases none

theorem pieces_cons {c : Char} (fresh : afterClause? name (c :: rest) = none) :
    pieces name (c :: rest) = .plain c :: pieces name rest := by
  rw [pieces.eq_def]
  dsimp only
  split
  · next read =>
    rw [fresh] at read
    cases read
  · rfl

/-- A text is empty, begins with a clause, or begins with a character at which no clause does. -/
@[elab_as_elim]
theorem clause_induction (name : List Char) {motive : List Char → Prop} (nil : motive [])
    (clause : ∀ {mark clause rest}, IsClause name mark clause → motive rest →
      motive (clause ++ rest))
    (plain : ∀ {c rest}, afterClause? name (c :: rest) = none → motive rest → motive (c :: rest))
    (cs : List Char) : motive cs := by
  induction cs using pieces.induct name with
  | case1 => exact nil
  | case2 c rest mark after read ih =>
    obtain ⟨written, isClause, whole⟩ := afterClause?_eq_some_iff.mp read
    exact whole ▸ clause isClause ih
  | case3 c rest none ih => exact plain none ih

/-- No clause begins at a place exactly where none is read. -/
theorem afterClause?_eq_none_iff :
    afterClause? name cs = none ↔ ∀ mark clause, IsClause name mark clause → ¬ clause <+: cs := by
  rw [Option.eq_none_iff_forall_ne_some]
  constructor
  · intro none mark clause written ⟨rest, whole⟩
    exact none (mark, rest) (afterClause?_eq_some_iff.mpr ⟨clause, written, whole.symm⟩)
  · intro none ⟨mark, rest⟩ read
    obtain ⟨clause, written, whole⟩ := afterClause?_eq_some_iff.mp read
    exact none mark clause written ⟨rest, whole.symm⟩

/-- A text has a clause among its pieces where one is written in it. -/
theorem exists_clause_iff :
    (∃ c, .clause c ∈ pieces name cs) ↔
      ∃ mark clause, IsClause name mark clause ∧ clause <:+: cs := by
  induction cs using clause_induction name with
  | nil =>
    rw [pieces]
    constructor
    · intro h
      obtain ⟨c, mem⟩ := h
      cases mem
    · intro h
      obtain ⟨mark, clause, written, inside⟩ := h
      exact absurd (List.infix_nil.mp inside) written.ne_nil
  | @clause mark clause rest written ih =>
    rw [pieces_append written]
    constructor
    · exact fun _ => ⟨mark, clause, written, ⟨[], rest, rfl⟩⟩
    · exact fun _ => ⟨_, List.mem_cons_self⟩
  | @plain c rest none ih =>
    rw [pieces_cons none]
    simp only [List.mem_cons, reduceCtorEq, false_or, ih, List.infix_cons_iff]
    constructor
    · intro h
      obtain ⟨mark, clause, written, inside⟩ := h
      exact ⟨mark, clause, written, .inr inside⟩
    · intro h
      obtain ⟨mark, clause, written, here | inside⟩ := h
      -- A clause at this place would have been read.
      · exact absurd here (afterClause?_eq_none_iff.mp none mark clause written)
      · exact ⟨mark, clause, written, inside⟩

theorem clauses_ne_nil_iff {name text : String} :
    clauses name text ≠ [] ↔ ∃ c, .clause c ∈ pieces name.toList text.toList := by
  constructor
  · intro some
    obtain ⟨c, mem⟩ := List.exists_mem_of_ne_nil _ some
    obtain ⟨piece, mem, read⟩ := List.mem_filterMap.mp mem
    cases piece with
    | plain => cases read
    | clause d => exact ⟨d, mem⟩
  · intro h
    obtain ⟨c, mem⟩ := h
    exact List.ne_nil_of_mem (List.mem_filterMap.mpr ⟨_, mem, rfl⟩)

theorem declaresModule_iff {name text : String} :
    DeclaresModule name text ↔ clauses name text ≠ [] := by
  rw [clauses_ne_nil_iff, exists_clause_iff, DeclaresModule]

/-- What is put in place of a clause stands in the new text. -/
theorem infix_replaceClauses {name text : String} (some : clauses name text ≠ [])
    (new : List Char) : new <:+: (replaceClauses name (fun _ => new) text).toList := by
  obtain ⟨c, mem⟩ := clauses_ne_nil_iff.mp some
  rw [replaceClauses, String.toList_ofList]
  obtain ⟨before, after, whole⟩ := List.append_of_mem mem
  rw [whole, List.flatMap_append, List.flatMap_cons]
  exact ⟨_, _, List.append_assoc _ _ _⟩

end AmbientTypes.Declaration
