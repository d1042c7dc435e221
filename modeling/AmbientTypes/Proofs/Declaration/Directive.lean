import AmbientTypes.Declaration.Directive
import AmbientTypes.Proofs.Text.Blank
import Mathlib.Data.List.Basic
import Mathlib.Data.List.TakeWhile

namespace AmbientTypes.Declaration

/-- The beginning of a directive, up to the quote that opens its path. -/
structure DirectiveHead where
  indent : List Char
  margin : List Char
  gap : List Char
  beforeSign : List Char
  afterSign : List Char
  mark : Char
  indented : ∀ c ∈ indent ++ margin, isIndent c = true
  some : gap ≠ []
  blank : ∀ c ∈ gap ++ (beforeSign ++ afterSign), Text.isBlank c = true
  quote : isPathMark mark = true

/-- The end of a directive, behind the quote that closes its path. -/
structure DirectiveEnd where
  gap : List Char
  isClosed : Bool
  blank : ∀ c ∈ gap, Text.isBlank c = true

def DirectiveHead.text (h : DirectiveHead) : List Char :=
  h.indent ++ ("///".toList ++ (h.margin ++ ("<reference".toList ++ (h.gap ++ ("path".toList ++
    (h.beforeSign ++ ("=".toList ++ (h.afterSign ++ [h.mark]))))))))

def DirectiveEnd.text (e : DirectiveEnd) : List Char :=
  e.gap ++ if e.isClosed then ['/', '>'] else ['>']

/-- A line of a text: a directive whose path has not the quote that it is in, or a line that does
not begin with three slashes behind its indent. -/
inductive Line where
  | plain (text : List Char) (bare : ¬ "///".toList <+: text.dropWhile isIndent)
      (whole : '\n' ∉ text)
  | directive (head : DirectiveHead) (path : List Char) (ending : DirectiveEnd) (rest : List Char)
      (full : path ≠ []) (unquoted : head.mark ∉ path)
      (whole : '\n' ∉ head.text ++ (path ++ head.mark :: (ending.text ++ rest)))

namespace Line

def text : Line → List Char
  | plain text _ _ => text
  | directive head path ending rest _ _ _ =>
    head.text ++ (path ++ head.mark :: (ending.text ++ rest))

def path? : Line → Option (List Char)
  | plain _ _ _ => none
  | directive _ path _ _ _ _ _ => some path

end Line

variable {p : Char → Bool} {cs gap rest path value : List Char} {mark : Char}

theorem dropWhile_append_of_fresh (all : ∀ c ∈ gap, p c = true)
    (fresh : ∀ c ∈ rest.head?, p c = false) : (gap ++ rest).dropWhile p = rest := by
  rw [List.dropWhile_append_of_pos all]
  exact Text.dropWhile_eq_self fresh

theorem dropSome_eq_some_iff (fresh : ∀ c ∈ rest.head?, p c = false) :
    dropSome p cs = some rest ↔ ∃ gap, gap ≠ [] ∧ (∀ c ∈ gap, p c = true) ∧ cs = gap ++ rest := by
  constructor
  · intro h
    cases cs with
    | nil => cases h
    | cons c cs =>
      rw [dropSome, Option.ite_none_right_eq_some, Option.some.injEq] at h
      obtain ⟨first, rfl⟩ := h
      refine ⟨c :: cs.takeWhile p, by simp, ?_, ?_⟩
      · intro d mem
        rcases List.mem_cons.mp mem with rfl | mem
        · exact first
        · exact List.mem_takeWhile_imp mem
      · rw [List.cons_append, List.takeWhile_append_dropWhile]
  · intro h
    obtain ⟨gap, some, all, rfl⟩ := h
    obtain ⟨c, gap, rfl⟩ := List.exists_cons_of_ne_nil some
    rw [List.cons_append, dropSome, if_pos (all c List.mem_cons_self),
      dropWhile_append_of_fresh (List.forall_mem_of_forall_mem_cons all) fresh]

theorem exists_gap (p : Char → Bool) (cs : List Char) :
    ∃ gap, (∀ c ∈ gap, p c = true) ∧ cs = gap ++ cs.dropWhile p :=
  ⟨cs.takeWhile p, fun _ mem => List.mem_takeWhile_imp mem, List.takeWhile_append_dropWhile.symm⟩

theorem path_unblank (tail : List Char) :
    ∀ c ∈ ("path".toList ++ tail).head?, Text.isBlank c = false := by
  simp
  decide

theorem exists_head {read : List Char × List Char} (found : directive? cs = some read) :
    ∃ (head : DirectiveHead) (value : List Char),
      cs = head.text ++ value ∧ directivePath head.mark [] value = some read := by
  simp only [directive?, Option.bind_eq_bind, Option.bind_eq_some_iff,
    List.isPrefixOf?_eq_some_iff_append_eq] at found
  obtain ⟨a, slashes, b, word, _, gapped, c, rfl, d, sign, found⟩ := found
  obtain ⟨indent, indented, inIndent⟩ := exists_gap isIndent cs
  obtain ⟨margin, indented', inMargin⟩ := exists_gap isIndent a
  obtain ⟨gap, some, blank, rfl⟩ := (dropSome_eq_some_iff (path_unblank c)).mp gapped
  obtain ⟨before, blankBefore, beforeSign⟩ := exists_gap Text.isBlank c
  obtain ⟨after, blankAfter, afterSign⟩ := exists_gap Text.isBlank d
  split at found
  · next mark value rest =>
    rw [Option.ite_none_right_eq_some] at found
    refine ⟨⟨indent, margin, gap, before, after, mark, ?_, some, ?_, found.1⟩, value, ?_, found.2⟩
    · exact List.forall_mem_append.mpr ⟨indented, indented'⟩
    · exact List.forall_mem_append.mpr ⟨blank, List.forall_mem_append.mpr ⟨blankBefore, blankAfter⟩⟩
    · rw [inIndent, ← slashes, inMargin, ← word, beforeSign, ← sign, afterSign, rest]
      simp [DirectiveHead.text]
  · cases found

theorem directive?_append (head : DirectiveHead) {read : List Char × List Char}
    (found : directivePath head.mark [] value = some read) :
    directive? (head.text ++ value) = some read := by
  obtain ⟨indented, indented'⟩ := List.forall_mem_append.mp head.indented
  obtain ⟨blank, blanks⟩ := List.forall_mem_append.mp head.blank
  obtain ⟨blankBefore, blankAfter⟩ := List.forall_mem_append.mp blanks
  have slash : ∀ tail, ∀ c ∈ ("///".toList ++ tail).head?, isIndent c = false := by
    simp
    decide
  have angle : ∀ tail, ∀ c ∈ ("<reference".toList ++ tail).head?, isIndent c = false := by
    simp
    decide
  have sign : ∀ tail, ∀ c ∈ ("=".toList ++ tail).head?, Text.isBlank c = false := by
    simp
    decide
  have quote : ∀ c ∈ (head.mark :: value).head?, Text.isBlank c = false := by
    have quote := head.quote
    simp only [isPathMark, Bool.or_eq_true, decide_eq_true_eq] at quote
    rcases quote with same | same <;> simp [same] <;> decide
  simp only [directive?, Option.bind_eq_bind, Option.bind_eq_some_iff,
    List.isPrefixOf?_eq_some_iff_append_eq, DirectiveHead.text, List.append_assoc]
  refine ⟨_, (dropWhile_append_of_fresh indented (slash _)).symm, _,
    (dropWhile_append_of_fresh indented' (angle _)).symm, _,
    (dropSome_eq_some_iff (path_unblank _)).mpr ⟨head.gap, head.some, blank, rfl⟩, _, rfl, _,
    (dropWhile_append_of_fresh blankBefore (sign _)).symm, ?_⟩
  rw [List.singleton_append, dropWhile_append_of_fresh blankAfter quote]
  simp [head.quote, found]

theorem dropEnd_eq_some_iff :
    dropEnd cs = some rest ↔ ∃ ending : DirectiveEnd, cs = ending.text ++ rest := by
  constructor
  · intro h
    obtain ⟨gap, blank, whole⟩ := exists_gap Text.isBlank cs
    unfold dropEnd at h
    split at h
    · next more same =>
      obtain rfl := Option.some.inj h
      exact ⟨⟨gap, true, blank⟩, by rw [whole, same]; simp [DirectiveEnd.text]⟩
    · next more same =>
      obtain rfl := Option.some.inj h
      exact ⟨⟨gap, false, blank⟩, by rw [whole, same]; simp [DirectiveEnd.text]⟩
    · cases h
  · rintro ⟨⟨gap, isClosed, blank⟩, rfl⟩
    cases isClosed with
    | false =>
      have dropped : (gap ++ '>' :: rest).dropWhile Text.isBlank = '>' :: rest :=
        dropWhile_append_of_fresh blank (by simp; decide)
      simp [DirectiveEnd.text, dropEnd, dropped]
    | true =>
      have dropped : (gap ++ '/' :: '>' :: rest).dropWhile Text.isBlank = '/' :: '>' :: rest :=
        dropWhile_append_of_fresh blank (by simp; decide)
      simp [DirectiveEnd.text, dropEnd, dropped]

/-- A path is read up to a quote behind which the directive ends. -/
theorem exists_end {read : List Char} (found : directivePath mark read cs = some (path, rest)) :
    ∃ (value : List Char) (ending : DirectiveEnd), path = read.reverse ++ value ∧ path ≠ [] ∧
      '\n' ∉ value ∧ cs = value ++ mark :: (ending.text ++ rest) := by
  induction cs generalizing read with
  | nil => cases found
  | cons c cs ih =>
    rw [directivePath] at found
    split at found
    · next after ends =>
      obtain ⟨rfl, rfl⟩ := Prod.mk.inj (Option.some.inj found)
      rw [Option.ite_none_right_eq_some, Bool.and_eq_true, decide_eq_true_eq] at ends
      obtain ⟨⟨rfl, some⟩, ends⟩ := ends
      obtain ⟨ending, rfl⟩ := dropEnd_eq_some_iff.mp ends
      exact ⟨[], ending, by simp, by simpa using some, List.not_mem_nil, rfl⟩
    · rw [Option.ite_none_left_eq_some] at found
      obtain ⟨inLine, found⟩ := found
      obtain ⟨value, ending, same, some, whole, rfl⟩ := ih found
      refine ⟨c :: value, ending, by simpa using same, some, ?_, rfl⟩
      simpa using ⟨Ne.symm inLine, whole⟩

/-- A path without its quote is read as it is. -/
theorem directivePath_append {read : List Char} (full : read.reverse ++ value ≠ [])
    (unquoted : mark ∉ value) (whole : '\n' ∉ value) (ending : DirectiveEnd) (rest : List Char) :
    directivePath mark read (value ++ mark :: (ending.text ++ rest)) =
      some (read.reverse ++ value, rest) := by
  induction value generalizing read with
  | nil =>
    have ends : dropEnd (ending.text ++ rest) = some rest :=
      dropEnd_eq_some_iff.mpr ⟨ending, rfl⟩
    have started : read.isEmpty = false := by simpa using full
    simp [directivePath, ends, started]
  | cons c value ih =>
    rw [List.mem_cons, not_or] at unquoted whole
    have later := @ih (c :: read) (by simp) unquoted.2 whole.2
    simp [directivePath, Ne.symm unquoted.1, Ne.symm whole.1, later]

theorem directive?_eq_none (bare : ¬ "///".toList <+: cs.dropWhile isIndent) :
    directive? cs = none := by
  have slashes : "///".toList.isPrefixOf? (cs.dropWhile isIndent) = none := by
    rw [Option.eq_none_iff_forall_ne_some]
    intro rest read
    exact bare ⟨rest, List.isPrefixOf?_eq_some_iff_append_eq.mp read⟩
  rw [directive?, slashes]
  rfl

theorem directivesFrom_cons {lineStart : Bool} {c : Char}
    (none : lineStart = true → directive? (c :: cs) = none) :
    directivesFrom lineStart (c :: cs) = directivesFrom (c = '\n') cs := by
  rw [directivesFrom.eq_def]
  dsimp only
  split
  · next path after found =>
    rw [Option.ite_none_right_eq_some] at found
    rw [none found.1] at found
    cases found.2
  · rfl

theorem directivesFrom_of_none (none : directive? cs = none) :
    directivesFrom true cs = directivesFrom false cs := by
  cases cs with
  | nil => simp [directivesFrom]
  | cons c cs => rw [directivesFrom_cons fun _ => none, directivesFrom_cons (by simp)]

theorem directivesFrom_of_some (found : directive? cs = some (path, rest)) :
    directivesFrom true cs = path :: directivesFrom false rest := by
  cases cs with
  | nil => cases found
  | cons c cs =>
    rw [directivesFrom.eq_def]
    dsimp only
    split
    · next path' after found' =>
      rw [if_pos rfl, found] at found'
      obtain ⟨rfl, rfl⟩ := Prod.mk.inj (Option.some.inj found')
      rfl
    · next none =>
      rw [if_pos rfl, found] at none
      cases none

/-- A text is empty, a directive is read at its beginning, or it is left for the next character. -/
@[elab_as_elim]
theorem directive_induction {motive : Bool → List Char → Prop}
    (nil : ∀ lineStart, motive lineStart [])
    (directive : ∀ {cs path rest}, directive? cs = some (path, rest) → motive false rest →
      motive true cs)
    (skip : ∀ {lineStart c cs}, (lineStart = true → directive? (c :: cs) = none) →
      motive (c = '\n') cs → motive lineStart (c :: cs)) (lineStart : Bool) (cs : List Char) :
    motive lineStart cs := by
  induction lineStart, cs using directivesFrom.induct with
  | case1 lineStart => exact nil lineStart
  | case2 lineStart c rest path after found ih =>
    simp only [dite_eq_ite, Option.ite_none_right_eq_some] at found
    obtain ⟨rfl, found⟩ := found
    exact directive found ih
  | case3 lineStart c rest none ih =>
    refine skip ?_ ih
    rintro rfl
    exact none

/-- Within a line no directive begins. -/
theorem directivesFrom_append (whole : '\n' ∉ cs) (rest : List Char) :
    directivesFrom false (cs ++ rest) = directivesFrom false rest := by
  induction cs with
  | nil => rfl
  | cons c cs ih =>
    rw [List.mem_cons, not_or] at whole
    rw [List.cons_append, directivesFrom_cons (by simp), decide_eq_false (Ne.symm whole.1),
      ih whole.2]

/-- What does not stand at the beginning of a line does not do so because of the lines after it. -/
theorem not_prefix_append {start : List Char} (bare : ¬ start <+: cs) (inLine : '\n' ∉ start)
    (closed : ∀ c ∈ rest.head?, c = '\n') : ¬ start <+: cs ++ rest := by
  intro begins
  obtain ⟨more, whole⟩ := begins
  rcases List.append_eq_append_iff.mp whole with ⟨tail, rfl, -⟩ | ⟨tail, rfl, after⟩
  · exact bare ⟨tail, rfl⟩
  · cases tail with
    | nil => exact bare ⟨[], by simp⟩
    | cons c tail =>
      have feed : c = '\n' := closed c (by simp [after])
      exact inLine (by simp [feed])

theorem dropWhile_append_line (closed : ∀ c ∈ rest.head?, c = '\n') :
    (cs ++ rest).dropWhile isIndent = cs.dropWhile isIndent ++ rest := by
  rw [List.dropWhile_append]
  split
  · next empty =>
    rw [List.isEmpty_iff.mp empty]
    apply @dropWhile_append_of_fresh _ [] rest (by simp)
    intro c first
    rw [closed c first]
    rfl
  · rfl

/-- A line gives the path of its directive, if it is one, whatever lines follow it. -/
theorem Line.directivesFrom_append (line : Line) (rest : List Char)
    (closed : ∀ c ∈ rest.head?, c = '\n') :
    directivesFrom true (line.text ++ rest) = line.path?.toList ++ directivesFrom false rest := by
  cases line with
  | plain text bare whole =>
    have none : directive? (text ++ rest) = none := by
      apply directive?_eq_none
      rw [dropWhile_append_line closed]
      exact not_prefix_append bare (by decide) closed
    rw [Line.text, directivesFrom_of_none none, Declaration.directivesFrom_append whole]
    rfl
  | directive head path ending after full unquoted whole =>
    have inLine : '\n' ∉ path ∧ '\n' ∉ after := by
      simp only [List.mem_append, List.mem_cons, not_or] at whole
      exact ⟨whole.2.1, whole.2.2.2.2⟩
    have read :=
      @directivePath_append path head.mark [] full unquoted inLine.1 ending (after ++ rest)
    have found : directive? (Line.text (.directive head path ending after full unquoted whole) ++
        rest) = some (path, after ++ rest) := by
      simpa [Line.text] using directive?_append head read
    rw [directivesFrom_of_some found, Declaration.directivesFrom_append inLine.2]
    rfl

theorem directivesFrom_lines (lines : List Line) :
    directivesFrom true (['\n'].intercalate (lines.map Line.text)) = lines.filterMap Line.path? := by
  induction lines with
  | nil => simp [directivesFrom]
  | cons line lines ih =>
    have paths : (line :: lines).filterMap Line.path? =
        line.path?.toList ++ lines.filterMap Line.path? := by
      cases found : line.path? <;> simp [found]
    rw [paths, ← ih]
    cases lines with
    | nil =>
      have one := line.directivesFrom_append [] (by simp)
      simpa [directivesFrom] using one
    | cons next lines =>
      have first := line.directivesFrom_append
        ('\n' :: ['\n'].intercalate ((next :: lines).map Line.text)) (by simp)
      rw [directivesFrom_cons (by simp)] at first
      simpa [List.intercalate_cons_cons] using first

/-- A text is read line by line: its paths are those of its directives, in order. -/
theorem paths_of_lines (lines : List Line) :
    referencePaths (String.ofList (['\n'].intercalate (lines.map Line.text))) =
      (lines.filterMap Line.path?).map String.ofList := by
  rw [referencePaths, String.toList_ofList, directivesFrom_lines]

theorem paths_of_two_quotes :
    referencePaths
      "\t/// <reference path='a\".d.ts'/> // http:///b\n\n///<reference  path = \"c\" />" =
      ["a\".d.ts", "c"] := by
  let first : DirectiveHead :=
    ⟨['\t'], [' '], [' '], [], [], '\'', List.all_eq_true.mp (by decide), by decide,
      List.all_eq_true.mp (by decide), by decide⟩
  let second : DirectiveHead :=
    ⟨[], [], [' ', ' '], [' '], [' '], '"', by simp, by decide,
      List.all_eq_true.mp (by decide), by decide⟩
  have lines := paths_of_lines [
    .directive first "a\".d.ts".toList ⟨[], true, by simp⟩ " // http:///b".toList (by decide)
      (by decide) (by decide),
    .plain [] (by decide) (by decide),
    .directive second ['c'] ⟨[' '], true, List.all_eq_true.mp (by decide)⟩ [] (by decide) (by decide) (by decide)]
  exact lines

end AmbientTypes.Declaration
