import AmbientTypes.Proofs.Declaration.Document
import AmbientTypes.Proofs.Text.Utf8

namespace AmbientTypes.Declaration

/-- A name that ends where the quote of its clause does. -/
def IsQuotable (name : List Char) : Prop :=
  ∀ c ∈ name, isNameMark c = false ∧ Text.isBlank c = false

/-- What stands before the opening quote of a clause. -/
structure IsOpening (head : List Char) : Prop where
  letters : head.filter (!Text.isBlank ·) = "declaremodule".toList
  unquoted : ∀ c ∈ head, isNameMark c = false
  first : ∃ rest, head = 'd' :: rest
  blank : ∃ c ∈ head, Text.isBlank c = true

/-- A text in which every clause for a module is replaced, always the leftmost one first. -/
inductive Renames (name new : List Char) : List Char → List Char → Prop where
  | rest {cs : List Char} (none : ∀ mark clause, IsClause name mark clause → ¬ clause <:+: cs) :
      Renames name new cs cs
  | clause {before clause after after' : List Char} {mark : Char}
      (written : IsClause name mark clause)
      (leftmost : ∀ mark' clause' u v, IsClause name mark' clause' →
        before ++ (clause ++ after) = u ++ (clause' ++ v) → before.length ≤ u.length)
      (renamed : Renames name new after after') :
      Renames name new (before ++ (clause ++ after)) (before ++ (new ++ after'))

/-- A text with each of its clauses replaced. -/
def rename (name new cs : List Char) : List Char :=
  (pieces name cs).flatMap fun
    | .plain c => [c]
    | .clause _ => new

variable {name key new clause cs rest after : List Char} {mark : Char}

theorem toList_replaceClauses (name text : String) (new : List Char) :
    (replaceClauses name (fun _ => new) text).toList = rename name.toList new text.toList := by
  rw [replaceClauses, String.toList_ofList]
  rfl

@[simp] theorem rename_nil (name new : List Char) : rename name new [] = [] := by
  rw [rename, pieces, List.flatMap_nil]

theorem rename_append (written : IsClause name mark clause) (new rest : List Char) :
    rename name new (clause ++ rest) = new ++ rename name new rest := by
  rw [rename, pieces_append written, List.flatMap_cons]
  rfl

theorem rename_cons {c : Char} (fresh : afterClause? name (c :: rest) = none) (new : List Char) :
    rename name new (c :: rest) = c :: rename name new rest := by
  rw [rename, pieces_cons fresh, List.flatMap_cons]
  rfl

theorem rename_eq_self (own : ∀ mark clause, IsClause name mark clause → clause <:+: cs →
    clause = new) : rename name new cs = cs := by
  induction cs using clause_induction name with
  | nil => exact rename_nil name new
  | @clause mark clause rest written ih =>
    have whole : clause = new := own mark clause written ⟨[], rest, rfl⟩
    rw [rename_append written, ih, whole]
    exact fun mark' clause' written' inside =>
      own mark' clause' written' (inside.trans ⟨clause, [], by simp⟩)
  | @plain c rest fresh ih =>
    rw [rename_cons fresh, ih]
    exact fun mark clause written inside =>
      own mark clause written (List.infix_cons_iff.mpr (.inr inside))

theorem Renames.cons {c : Char} {cs' : List Char} (fresh : afterClause? name (c :: cs) = none)
    (renames : Renames name new cs cs') : Renames name new (c :: cs) (c :: cs') := by
  have none := afterClause?_eq_none_iff.mp fresh
  cases renames with
  | rest rest =>
    refine .rest fun mark clause written inside => ?_
    rcases List.infix_cons_iff.mp inside with here | later
    · exact none mark clause written here
    · exact rest mark clause written later
  | @clause before clause after after' mark written leftmost renamed =>
    change Renames name new ((c :: before) ++ _) ((c :: before) ++ _)
    refine .clause written ?_ renamed
    intro mark' clause' u v written' whole
    cases u with
    | nil => exact absurd ⟨v, whole.symm⟩ (none mark' clause' written')
    | cons d u =>
      have further := leftmost mark' clause' u v written' (List.cons.inj whole).2
      simpa using further

theorem rename_append_of_leftmost {before : List Char} (written : IsClause name mark clause)
    (leftmost : ∀ mark' clause' u v, IsClause name mark' clause' →
      before ++ (clause ++ after) = u ++ (clause' ++ v) → before.length ≤ u.length) :
    rename name new (before ++ (clause ++ after)) = before ++ (new ++ rename name new after) := by
  induction before with
  | nil => exact rename_append written new after
  | cons c before ih =>
    have fresh : afterClause? name (c :: (before ++ (clause ++ after))) = none := by
      rw [afterClause?_eq_none_iff]
      rintro mark' clause' written' ⟨v, whole⟩
      have := leftmost mark' clause' [] v written' whole.symm
      simp at this
    rw [List.cons_append, rename_cons fresh, ih, List.cons_append]
    intro mark' clause' u v written' whole
    have := leftmost mark' clause' (c :: u) v written' (congrArg (List.cons c) whole)
    simpa using this

theorem renames_iff {cs' : List Char} : Renames name new cs cs' ↔ cs' = rename name new cs := by
  constructor
  · intro renames
    induction renames with
    | rest none =>
      refine (rename_eq_self fun mark clause written inside => ?_).symm
      exact absurd inside (none mark clause written)
    | clause written leftmost renamed ih => rw [rename_append_of_leftmost written leftmost, ih]
  · rintro rfl
    induction cs using clause_induction name with
    | nil =>
      rw [rename_nil]
      refine .rest fun mark clause written inside => ?_
      exact written.ne_nil (List.infix_nil.mp inside)
    | @clause mark clause rest written ih =>
      rw [rename_append written]
      change Renames name new ([] ++ _) ([] ++ _)
      exact .clause written (fun _ _ _ _ _ _ => Nat.zero_le _) ih
    | plain fresh ih =>
      rw [rename_cons fresh]
      exact ih.cons fresh

theorem IsClause.exists_opening (written : IsClause name mark clause) :
    isNameMark mark = true ∧
      ∃ head, IsOpening head ∧ clause = head ++ mark :: (name ++ [mark]) := by
  obtain @⟨gap, gap', quote, some, blank, some', blank'⟩ := written
  refine ⟨quote, "declare".toList ++ (gap ++ ("module".toList ++ gap')), ?_, by simp⟩
  have unquoted : ∀ c, Text.isBlank c = true → isNameMark c = false := by
    intro c blank
    rw [Bool.eq_false_iff]
    intro quoted
    simp only [isNameMark, Bool.or_eq_true, decide_eq_true_eq] at quoted
    rcases quoted with (rfl | rfl) | rfl <;> exact absurd blank (by decide)
  obtain ⟨c, mem⟩ := List.exists_mem_of_ne_nil gap some
  refine ⟨?_, ?_, ⟨_, rfl⟩, c, by simp [mem], blank c mem⟩
  · have dropped : ∀ {gap : List Char}, (∀ c ∈ gap, Text.isBlank c = true) →
        gap.filter (!Text.isBlank ·) = [] := by
      intro gap blank
      simpa using blank
    rw [List.filter_append, List.filter_append, List.filter_append, dropped blank, dropped blank']
    decide
  · intro c mem
    simp only [List.mem_append] at mem
    rcases mem with mem | mem | mem | mem
    · have letters : "declare".toList.all (!isNameMark ·) = true := by decide
      simpa using List.all_eq_true.mp letters c mem
    · exact unquoted c (blank c mem)
    · have letters : "module".toList.all (!isNameMark ·) = true := by decide
      simpa using List.all_eq_true.mp letters c mem
    · exact unquoted c (blank' c mem)

/-- One opening does not end in another one. -/
theorem IsOpening.eq_nil {u head : List Char} (long : IsOpening (u ++ head))
    (opening : IsOpening head) : u = [] := by
  cases u with
  | nil => rfl
  | cons c u =>
    obtain ⟨rest, first⟩ := long.first
    obtain rfl := (List.cons.inj first).1
    have letters := long.letters
    rw [List.filter_append, opening.letters, List.append_left_eq_self, List.filter_eq_nil_iff]
      at letters
    exact absurd (by decide) (letters 'd' List.mem_cons_self)

/-- A clause that begins within another one, or with it, is the same clause. -/
theorem IsClause.eq_or_after {clause' u a b : List Char} {mark' : Char}
    (written : IsClause name mark clause) (written' : IsClause key mark' clause')
    (quotable : IsQuotable name) (quotable' : IsQuotable key)
    (same : u ++ (clause ++ a) = clause' ++ b) :
    (u = [] ∧ clause = clause' ∧ name = key) ∨ ∃ u', u = clause' ++ u' := by
  obtain ⟨quote, head, opening, rfl⟩ := written.exists_opening
  obtain ⟨quote', head', opening', rfl⟩ := written'.exists_opening
  have letter : ∀ {d rest}, isNameMark d = true → d :: rest ≠
      head ++ mark :: (name ++ [mark]) ++ a := by
    rintro d rest quoted begins
    obtain ⟨more, rfl⟩ := opening.first
    obtain rfl := (List.cons.inj begins).1
    exact absurd quoted (by decide)
  rw [List.append_assoc head'] at same
  rcases List.append_eq_append_iff.mp same with ⟨w, rfl, tail⟩ | ⟨w, rfl, tail⟩
  -- The clause begins before the quote of the other one.
  · left
    have unquoted : ∀ c ∈ w, isNameMark c = false :=
      fun c mem => opening'.unquoted c (List.mem_append_right u mem)
    rw [List.append_assoc] at tail
    obtain ⟨rfl, rfl, names⟩ :=
      Text.eq_of_append_stop isNameMark opening.unquoted unquoted quote quote' tail
    obtain rfl := opening'.eq_nil opening
    have names' : name ++ mark :: a = key ++ mark :: b := by simpa using names
    obtain ⟨rfl, -, -⟩ := Text.eq_of_append_stop isNameMark (fun c mem => (quotable c mem).1)
      (fun c mem => (quotable' c mem).1) quote quote names'
    exact ⟨rfl, rfl, rfl⟩
  rcases List.cons_eq_append_iff.mp tail with ⟨rfl, begins⟩ | ⟨w, rfl, tail'⟩
  · exact absurd begins.symm (letter quote')
  have tail'' : w ++ (head ++ mark :: (name ++ [mark]) ++ a) = key ++ mark' :: b := by
    rw [← tail']
    simp
  rcases List.append_eq_append_iff.mp tail'' with ⟨v, rfl, rest⟩ | ⟨v, rfl, rest⟩
  -- The other name ends in what stands before the quote, and so has a blank.
  · have unquoted : ∀ c ∈ v, isNameMark c = false :=
      fun c mem => (quotable' c (List.mem_append_right w mem)).1
    rw [List.append_assoc] at rest
    obtain ⟨rfl, -, -⟩ :=
      Text.eq_of_append_stop isNameMark opening.unquoted unquoted quote quote' rest
    obtain ⟨c, mem, blank⟩ := opening.blank
    rw [(quotable' c (List.mem_append_right w mem)).2] at blank
    cases blank
  rcases List.cons_eq_append_iff.mp rest with ⟨rfl, begins⟩ | ⟨v, rfl, -⟩
  · exact absurd begins.symm (letter quote')
  · exact .inr ⟨v, by simp⟩

/-- The beginning of a renamed text is that of the text, or reaches into a new clause. -/
theorem prefix_or_reaches {a b : List Char} (same : rename name new cs = b ++ a) :
    b <+: cs ∨ ∃ y w z, b = y ++ w ∧ w ≠ [] ∧ w ++ a = new ++ z := by
  induction cs using clause_induction name generalizing b with
  | nil =>
    rw [rename_nil] at same
    obtain ⟨rfl, -⟩ := List.append_eq_nil_iff.mp same.symm
    exact .inl List.prefix_rfl
  | @clause mark clause rest written ih =>
    rw [rename_append written] at same
    by_cases empty : b = []
    · exact .inl (empty ▸ List.nil_prefix)
    · exact .inr ⟨[], b, _, rfl, empty, same.symm⟩
  | @plain c rest fresh ih =>
    rw [rename_cons fresh] at same
    rcases List.cons_eq_append_iff.mp same with ⟨rfl, -⟩ | ⟨b, rfl, later⟩
    · exact .inl List.nil_prefix
    rcases ih later with begins | ⟨y, w, z, rfl, some, reaches⟩
    · exact .inl (List.cons_prefix_cons.mpr ⟨rfl, begins⟩)
    · exact .inr ⟨c :: y, w, z, rfl, some, reaches⟩

/-- A renamed text has only new clauses. -/
theorem eq_of_infix_rename {mark' : Char} (written : IsClause name mark clause)
    (written' : IsClause key mark' new) (quotable : IsQuotable name) (quotable' : IsQuotable key)
    (inside : clause <:+: rename name new cs) : clause = new ∧ name = key := by
  induction cs using clause_induction name with
  | nil =>
    rw [rename_nil] at inside
    exact absurd (List.infix_nil.mp inside) written.ne_nil
  | @clause _ _ rest replaced ih =>
    rw [rename_append replaced] at inside
    obtain ⟨u, a, whole⟩ := inside
    rw [List.append_assoc] at whole
    rcases written.eq_or_after written' quotable quotable' whole with ⟨-, same⟩ | ⟨u, rfl⟩
    · exact same
    · refine ih ⟨u, a, ?_⟩
      rw [List.append_assoc, List.append_cancel_left_eq] at whole
      rw [List.append_assoc, whole]
  | @plain c rest fresh ih =>
    rw [rename_cons fresh] at inside
    rcases List.infix_cons_iff.mp inside with ⟨a, whole⟩ | later
    · exfalso
      rcases List.append_eq_cons_iff.mp whole with ⟨empty, -⟩ | ⟨b, rfl, tail⟩
      · exact written.ne_nil empty
      rcases prefix_or_reaches tail with begins | ⟨y, w, z, rfl, some, reaches⟩
      · exact afterClause?_eq_none_iff.mp fresh _ _ written
          (List.cons_prefix_cons.mpr ⟨rfl, begins⟩)
      -- A new clause would begin within this one.
      · have whole : (c :: y) ++ (new ++ z) = (c :: (y ++ w)) ++ a := by
          rw [← reaches]
          simp
        rcases written'.eq_or_after written quotable' quotable whole with ⟨none, -⟩ | ⟨u, long⟩
        · cases none
        · have lengths := congrArg List.length long
          have full := List.length_pos_iff.mpr some
          simp only [List.length_cons, List.length_append] at lengths
          omega
    · exact ih later

/-- A renamed text is renamed no further. -/
theorem rename_rename {mark' : Char} (written : IsClause key mark' new)
    (quotable : IsQuotable name) (quotable' : IsQuotable key) (cs : List Char) :
    rename name new (rename name new cs) = rename name new cs :=
  rename_eq_self fun _ _ found inside =>
    (eq_of_infix_rename found written quotable quotable' inside).1

theorem isClause_template (key : String) :
    IsClause key.toList '\'' ("declare module '" ++ key ++ "'").toList := by
  have parts : ("declare module '" ++ key ++ "'").toList = "declare".toList ++ ([' '] ++
      ("module".toList ++ ([' '] ++ '\'' :: (key.toList ++ ['\''])))) := by simp
  have blank : ∀ c ∈ [' '], Text.isBlank c = true := by
    intro c mem
    rw [List.mem_singleton.mp mem]
    decide
  rw [parts]
  exact .written rfl (by simp) blank (by simp) blank

variable {d : Dependency}

theorem isQuotable_moduleKey {s : String} (read : Dependency.ofSpecifier? s = some d) :
    IsQuotable d.moduleKey.toList := by
  intro c mem
  rcases Dependency.isKeyChar_of_mem_moduleKey read mem with letter | sign
  · refine ⟨?_, letter.not_isBlank⟩
    have low : ∀ c, isNameMark c = true → Text.isWord c = false ∧ c.toNat < 97 := by
      intro c quote
      simp only [isNameMark, Bool.or_eq_true, decide_eq_true_eq] at quote
      rcases quote with (rfl | rfl) | rfl <;> decide
    rw [Bool.eq_false_iff]
    intro quote
    obtain ⟨other, small⟩ := low c quote
    rcases letter with word | ⟨high, -⟩
    · rw [other] at word
      cases word
    · omega
  · have plain : Dependency.signs.all (fun c => !isNameMark c && !Text.isBlank c) = true := by
      decide
    simpa using List.all_eq_true.mp plain c sign

theorem mem_moduleKey_of_mem_name {c : Char} (mem : c ∈ d.name.toList) :
    c ∈ d.moduleKey.toList := by
  unfold Dependency.moduleKey Dependency.key
  split <;> split <;> simp [mem]

/-- The entry of a package that declares the package's module is emitted with each of these
declarations, from the left, put under the package's key, and otherwise as it is. Doing this to the
emitted text once more changes nothing, and where the key is not the bare name, the emitted text
nowhere declares a module of the bare name. -/
theorem renaming_is_complete {s : String} (read : Dependency.ofSpecifier? s = some d)
    (entry : ArchiveFile) (declared : DeclaresModule d.name entry.text) :
    let renames := Renames d.name.toList ("declare module '" ++ d.moduleKey ++ "'").toList
    ∃ content : String,
      (∀ content', renames entry.text.toList content' ↔ content' = content.toList) ∧
      (∀ again, renames content.toList again ↔ again = content.toList) ∧
      (d.moduleKey ≠ d.name → ¬ DeclaresModule d.name content) ∧
      entryDocuments d entry = .ok [⟨d.documentPath entry.path, content⟩] ∧
      ∀ types : Declarations, d.registry ≠ "jsr" →
        entryFile? d types.entry types.files = some entry →
        documents d types = .ok ⟨(references entry types.files).map (fun f =>
          ⟨d.documentPath f.path, f.text⟩) ++ [⟨d.documentPath entry.path, content⟩], []⟩ := by
  have quotable := isQuotable_moduleKey read
  have quotable' : IsQuotable d.name.toList :=
    fun c mem => quotable c (mem_moduleKey_of_mem_name mem)
  have written := isClause_template d.moduleKey
  have regular := Dependency.isRegular_of_ofSpecifier? read
  have emitted : entryDocuments d entry = .ok [⟨d.documentPath entry.path,
      replaceClauses d.name (fun _ => clauseTemplate d) entry.text⟩] := by
    have some : (clauses d.name entry.text).isEmpty = false := by
      simpa using declaresModule_iff.mp declared
    rw [entryDocuments_eq regular, entryPart, some, if_neg Bool.false_ne_true]
  refine ⟨_, ?_, ?_, ?_, emitted, ?_⟩
  · intro content'
    rw [renames_iff, toList_replaceClauses]
    rfl
  · intro again
    rw [renames_iff, toList_replaceClauses]
    dsimp only [clauseTemplate]
    rw [rename_rename written quotable' quotable]
  · rintro other ⟨mark, clause, found, inside⟩
    rw [toList_replaceClauses] at inside
    exact other (String.toList_inj.mp
      (eq_of_infix_rename found written quotable' quotable inside).2).symm
  · intro types general chosen
    rw [documents_of_entryFile? regular.name_ne_empty general chosen, emitted]
    rfl

/-- An entry that declares its module twice, in different quotes. -/
def declaring : ArchiveFile := ⟨"package/index.d.ts", Text.Utf8.encode
  "declare module \"lodash\";\ndeclare\tmodule 'lodash' // declare module 'lodash/fp'".toList⟩

theorem renaming_of_lodash :
    ∃ content : String,
      Renames "lodash".toList "declare module 'npm:lodash@4'".toList declaring.text.toList
        content.toList ∧
      ¬ DeclaresModule "lodash" content ∧
      entryDocuments ⟨"npm", "lodash", "4"⟩ declaring = .ok [⟨"npm/lodash@4/index.d.ts", content⟩] := by
  have read : Dependency.ofSpecifier? "npm:lodash@4" = some ⟨"npm", "lodash", "4"⟩ := by
    decide +kernel
  have declared : DeclaresModule "lodash" declaring.text :=
    declaresModule_iff.mpr (by decide +kernel)
  obtain ⟨content, renames, -, gone, emitted, -⟩ := renaming_is_complete read declaring declared
  exact ⟨content, (renames _).mpr rfl, gone (by decide), emitted⟩

end AmbientTypes.Declaration
