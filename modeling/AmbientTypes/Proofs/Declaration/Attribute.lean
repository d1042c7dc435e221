import AmbientTypes.Proofs.Declaration.Directive

namespace AmbientTypes.Declaration

/-- A directive that is read in a text. -/
structure Reading (text : List Char) where
  before : List Char
  head : DirectiveHead
  path : List Char
  ending : DirectiveEnd
  rest : List Char
  startsLine : ∀ c ∈ before.getLast?, c = '\n'
  full : path ≠ []
  inLine : '\n' ∉ path
  whole : text = before ++ (head.text ++ (path ++ head.mark :: (ending.text ++ rest)))

namespace Reading

variable {text : List Char}

/-- What follows the quote that opens the path. -/
def value (r : Reading text) : List Char := r.path ++ r.head.mark :: (r.ending.text ++ r.rest)

/-- No shorter path is closed by a quote behind which the directive ends. -/
def IsShortest (r : Reading text) : Prop :=
  ∀ (path : List Char) (ending : DirectiveEnd) (rest : List Char), path ≠ [] →
    r.value = path ++ r.head.mark :: (ending.text ++ rest) → r.path.length ≤ path.length

/-- The directive ends behind the first quote after the one that opens the path, and the path up to
there is not empty. -/
def EndsAtFirstQuote (r : Reading text) : Prop :=
  ∃ (path : List Char) (ending : DirectiveEnd) (rest : List Char), path ≠ [] ∧
    r.head.mark ∉ path ∧ r.value = path ++ r.head.mark :: (ending.text ++ rest)

/-- A path stops at its closing quote exactly where the directive does so. -/
theorem IsShortest.mark_not_mem_iff {r : Reading text} (shortest : r.IsShortest) :
    r.head.mark ∉ r.path ↔ r.EndsAtFirstQuote := by
  constructor
  · intro unquoted
    exact ⟨r.path, r.ending, r.rest, r.full, unquoted, rfl⟩
  · rintro ⟨path, ending, rest, full, unquoted, same⟩ quoted
    have short := shortest path ending rest full same
    have begins : r.path <+: path := by
      apply List.prefix_of_prefix_length_le ⟨_, rfl⟩ ⟨_, same.symm⟩ short
    exact unquoted (begins.subset quoted)

end Reading

variable {mark : Char} {cs path rest read : List Char}

theorem length_le_of_directivePath (found : directivePath mark read cs = some (path, rest))
    {value rest' : List Char} {ending : DirectiveEnd} (full : read ≠ [] ∨ value ≠ [])
    (whole : cs = value ++ mark :: (ending.text ++ rest')) :
    path.length ≤ read.length + value.length := by
  subst whole
  induction value generalizing read with
  | nil =>
    have ends : dropEnd (ending.text ++ rest') = some rest' :=
      dropEnd_eq_some_iff.mpr ⟨ending, rfl⟩
    have started : read.isEmpty = false := by simpa using full
    simp [directivePath, ends, started] at found
    simp [← found.1]
  | cons c value ih =>
    rw [List.cons_append, directivePath] at found
    split at found
    · obtain ⟨rfl, -⟩ := Prod.mk.inj (Option.some.inj found)
      simp
    · rw [Option.ite_none_left_eq_some] at found
      have later := ih (.inl (List.cons_ne_nil c read)) found.2
      simp only [List.length_cons] at later ⊢
      omega

/-- The paths of a text with the places that they are read at, from the left to the right. -/
theorem exists_readings {text before : List Char} {lineStart : Bool} (whole : text = before ++ cs)
    (startsLine : lineStart = true → ∀ c ∈ before.getLast?, c = '\n') :
    ∃ readings : List (Reading text), readings.map Reading.path = directivesFrom lineStart cs ∧
      readings.Pairwise (fun r r' => r.before.length < r'.before.length) ∧
      ∀ r ∈ readings, before.length ≤ r.before.length ∧ r.IsShortest := by
  induction lineStart, cs using directive_induction generalizing before with
  | nil => exact ⟨[], by simp [directivesFrom], .nil, by simp⟩
  | @directive _ path after found ih =>
    obtain ⟨head, value, rfl, read⟩ := exists_head found
    obtain ⟨_, ending, rfl, full, inLine, rfl⟩ := exists_end read
    let first : Reading text :=
      ⟨before, head, path, ending, after, startsLine rfl, full, inLine, whole⟩
    have shortest : first.IsShortest := by
      intro path' ending' rest' full' same
      simpa using length_le_of_directivePath read (.inr full') same
    obtain ⟨readings, paths, ordered, later⟩ :=
      @ih (before ++ (head.text ++ (path ++ head.mark :: ending.text))) (by simp [whole]) (by simp)
    refine ⟨first :: readings, ?_, ?_, ?_⟩
    · rw [directivesFrom_of_some found, List.map_cons, paths]
    · refine List.pairwise_cons.mpr ⟨fun r mem => ?_, ordered⟩
      have behind := (later r mem).1
      simp only [List.length_append, List.length_cons] at behind
      dsimp only [first]
      omega
    · refine List.forall_mem_cons.mpr ⟨⟨Nat.le_refl _, shortest⟩, fun r mem => ?_⟩
      obtain ⟨behind, short⟩ := later r mem
      rw [List.length_append] at behind
      exact ⟨by omega, short⟩
  | @skip _ c rest none ih =>
    obtain ⟨readings, paths, ordered, later⟩ := @ih (before ++ [c]) (by simp [whole]) (by simp)
    refine ⟨readings, ?_, ordered, fun r mem => ?_⟩
    · rw [paths, directivesFrom_cons none]
    · obtain ⟨behind, short⟩ := later r mem
      rw [List.length_append] at behind
      exact ⟨by omega, short⟩

/-- The paths of a text are read at places from the left to the right, each as far as the first
quote behind which its directive ends. So a path has the quote that it is opened with exactly where
something else stands behind its closing quote, or between the quotes nothing. -/
theorem paths_stop_at_quote_iff (text : String) :
    ∃ readings : List (Reading text.toList),
      readings.map (fun r => String.ofList r.path) = referencePaths text ∧
      readings.Pairwise (fun r r' => r.before.length < r'.before.length) ∧
      ∀ r ∈ readings, r.IsShortest ∧ (r.head.mark ∉ r.path ↔ r.EndsAtFirstQuote) := by
  obtain ⟨readings, paths, ordered, short⟩ :=
    @exists_readings text.toList text.toList [] true rfl (by simp)
  refine ⟨readings, ?_, ordered, fun r mem => ?_⟩
  · rw [referencePaths, ← paths, List.map_map]
    rfl
  · have shortest := (short r mem).2
    exact ⟨shortest, shortest.mark_not_mem_iff⟩

/-- A directive with an attribute behind its path. -/
def preserving : String := "/// <reference path=\"a.d.ts\" preserve=\"true\" />"

theorem not_all_paths_stop_at_quote :
    ¬ ∀ text : String, ∃ readings : List (Reading text.toList),
      readings.map (fun r => String.ofList r.path) = referencePaths text ∧
      ∀ r ∈ readings, r.head.mark ∉ r.path := by
  intro all
  obtain ⟨readings, paths, unquoted⟩ := all preserving
  have read : referencePaths preserving = ["a.d.ts\" preserve=\"true"] := by decide +kernel
  rw [read] at paths
  obtain ⟨r, rfl, same⟩ := List.map_eq_singleton_iff.mp paths
  have quoted : '"' ∈ r.path := by
    rw [← String.toList_ofList (l := r.path), same]
    decide
  have inside : r.head.mark ∈ preserving.toList :=
    (congrArg (r.head.mark ∈ ·) r.whole).mpr (by simp)
  -- The text has no single quotes.
  have mark : r.head.mark = '"' := by
    have quote := r.head.quote
    simp only [isPathMark, Bool.or_eq_true, decide_eq_true_eq] at quote
    rcases quote with double | single
    · exact double
    · rw [single] at inside
      exact absurd inside (by decide +kernel)
  exact unquoted r (List.mem_singleton_self r) (mark ▸ quoted)

end AmbientTypes.Declaration
