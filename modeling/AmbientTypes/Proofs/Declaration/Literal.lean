import AmbientTypes.Proofs.Declaration.Renaming

namespace AmbientTypes.Declaration

variable {d : Dependency}

theorem hasEscape_clauseTemplate_iff :
    HasEscape (clauseTemplate d) ↔ HasEscape d.moduleKey.toList := by
  rw [clauseTemplate, String.toList_append, String.toList_append, List.append_assoc,
    hasEscape_append_iff (by decide)]
  exact hasEscape_concat_iff (by decide)

/-- Every clause of every entry is replaced by the clause with the key as it is written. -/
def KeepsKey (d : Dependency) : Prop :=
  ∀ (types : Declarations) (entry : ArchiveFile),
    entryFile? d types.entry types.files = some entry → DeclaresModule d.name entry.text →
    ∃ content : String,
      documents d types = .ok ⟨(references entry types.files).map (fun f =>
        ⟨d.documentPath f.path, f.text⟩) ++ [⟨d.documentPath entry.path, content⟩], []⟩ ∧
      Renames d.name.toList ("declare module '" ++ d.moduleKey ++ "'").toList entry.text.toList
        content.toList

theorem keepsKey_of_not_hasEscape (named : d.name ≠ "") (general : d.registry ≠ entrylessRegistry)
    (plain : ¬ HasEscape d.moduleKey.toList) : KeepsKey d := by
  intro types entry chosen declared
  have some : (clauses d.name entry.text).isEmpty = false := by
    simpa using declaresModule_iff.mp declared
  refine ⟨replaceClauses d.name (fun _ => clauseTemplate d) entry.text, ?_, ?_⟩
  · rw [documents_of_entryFile? named general chosen,
      entryDocuments_of_not_hasEscape (mt hasEscape_clauseTemplate_iff.mp plain), entryPart, some]
    rfl
  · rw [renames_iff, toList_replaceClauses]
    rfl

/-- A clause with so many blanks that it is longer than a given number of characters. -/
theorem exists_long_clause (name : List Char) (n : Nat) :
    ∃ clause, IsClause name '\'' clause ∧ n < clause.length := by
  have blank : ∀ m, ∀ c ∈ List.replicate m ' ', Text.isBlank c = true := by
    intro m c mem
    rw [List.eq_of_mem_replicate mem]
    decide
  refine ⟨_, @IsClause.written name '\'' (List.replicate (n + 1) ' ') (List.replicate 1 ' ') rfl
    (by simp) (blank _) (by simp) (blank _), ?_⟩
  · simp only [List.length_append, List.length_replicate]
    omega

theorem replaceClauses_clause {name text : String} {mark : Char} {clause : List Char}
    (written : IsClause name.toList mark clause) (whole : text.toList = clause)
    (new : Clause → List Char) : (replaceClauses name new text).toList = new ⟨clause, mark⟩ := by
  have split := pieces_append written []
  rw [List.append_nil, pieces] at split
  rw [replaceClauses, String.toList_ofList, whole, split]
  exact List.append_nil _

theorem exists_entry (d : Dependency) (cs : List Char) :
    ∃ (types : Declarations) (entry : ArchiveFile), entry.text.toList = cs ∧
      entryFile? d types.entry types.files = some entry := by
  let entry : ArchiveFile := ⟨Dependency.defaultEntry, Text.Utf8.encode cs⟩
  refine ⟨⟨"", [entry]⟩, entry, ?_, ?_⟩
  · rw [ArchiveFile.text, Text.Utf8.decodeLossy_encode, String.toList_ofList]
  · have plain : Dependency.plainEntry "" = Dependency.defaultEntry := by decide +kernel
    rw [entryFile?, Dependency.entryCandidates, plain]
    exact List.find?_cons_of_pos (by simp [entry])

/-- Where the entry is nothing but a clause, what is read of the template is put in its place. -/
theorem expand_of_keepsKey (named : d.name ≠ "") (general : d.registry ≠ entrylessRegistry)
    (keeps : KeepsKey d) {mark : Char} {clause : List Char}
    (written : IsClause d.name.toList mark clause) :
    ∃ inserts, readTemplate (clauseTemplate d) = .ok inserts ∧
      expand inserts ⟨clause, mark⟩ = clauseTemplate d := by
  obtain ⟨types, entry, text, chosen⟩ := exists_entry d clause
  have declared : DeclaresModule d.name entry.text :=
    ⟨mark, clause, written, text ▸ List.infix_rfl⟩
  have some : (clauses d.name entry.text).isEmpty = false := by
    simpa using declaresModule_iff.mp declared
  obtain ⟨content, given, renamed⟩ := keeps types entry chosen declared
  rw [documents_of_entryFile? named general chosen, entryDocuments, some,
    if_neg Bool.false_ne_true] at given
  dsimp only at given
  cases read : readTemplate (clauseTemplate d) with
  | error e =>
    rw [read] at given
    cases given
  | ok inserts =>
    rw [read] at given
    have last := (Journaled.mk.inj (Except.ok.inj given)).1
    have content_eq := (Document.mk.inj (List.singleton_inj.mp (List.append_cancel_left last))).2
    refine ⟨inserts, rfl, ?_⟩
    rw [renames_iff, ← content_eq, replaceClauses_clause written text] at renamed
    rw [renamed, text, ← List.append_nil clause, rename_append written, rename_nil,
      List.append_nil]
    rfl

theorem not_hasEscape_of_keepsKey (named : d.name ≠ "") (general : d.registry ≠ entrylessRegistry)
    (keeps : KeepsKey d) : ¬ HasEscape d.moduleKey.toList := by
  obtain ⟨clause, written, long⟩ := exists_long_clause d.name.toList (clauseTemplate d).length
  obtain ⟨inserts, read, same⟩ := expand_of_keepsKey named general keeps written
  rw [← hasEscape_clauseTemplate_iff]
  exact not_hasEscape_of_expand read long same

/-- The key of a package is put into the clauses of every entry as it is written exactly where no
backslash of it stands in front of a letter, a digit or another backslash; with such a backslash
the template is refused, or something else is put into some entry. Side-cars and the modules of the
entryless registry have every key as it is written. -/
theorem keeps_key_iff (d : Dependency) (named : d.name ≠ "") :
    (d.registry ≠ "jsr" → (KeepsKey d ↔ ¬ HasEscape d.moduleKey.toList)) ∧
    (d.registry ≠ "jsr" → ∀ (types : Declarations) (entry : ArchiveFile),
      entryFile? d types.entry types.files = some entry → ¬ DeclaresModule d.name entry.text →
      ∃ body, documents d types = .ok ⟨(references entry types.files).map (fun f =>
        ⟨d.documentPath f.path, f.text⟩) ++ [⟨d.documentPath entry.path, entry.text⟩,
          ⟨d.documentRoot ++ "/" ++ "__types__.d.ts",
            "declare module '" ++ d.moduleKey ++ "' \x7b\n" ++ body ++ "\n\x7d"⟩], []⟩) ∧
    (d.registry = "jsr" → ∀ types : Declarations, ∃ events,
      documents d types = .ok ⟨(types.files.filter fun f => !isBlankText f.text).map fun f =>
        ⟨d.documentPath f.path,
          "declare module '" ++ d.moduleKey ++ "' \x7b\n" ++ f.text ++ "\n\x7d"⟩, events⟩) := by
  refine ⟨fun general => ?_, fun general types entry chosen other => ?_, fun entryless types => ?_⟩
  · exact ⟨not_hasEscape_of_keepsKey named general, keepsKey_of_not_hasEscape named general⟩
  · have none : (clauses d.name entry.text).isEmpty = true := by
      simpa using mt declaresModule_iff.mpr other
    rw [documents_of_entryFile? named general chosen, entryDocuments, none, if_pos rfl]
    exact ⟨_, rfl⟩
  · exact documents_of_entryless named entryless types

/-- A backslash in front of a dot stands in the clauses as it is written. -/
theorem keepsKey_of_dot : KeepsKey ⟨"", "pkg", "1\\.x"⟩ :=
  ((keeps_key_iff ⟨"", "pkg", "1\\.x"⟩ (by decide)).1 (by decide)).mpr (by decide +kernel)

/-- An entry that declares the module `pkg`. -/
def declaringPkg : ArchiveFile :=
  ⟨"package/index.d.ts", Text.Utf8.encode "declare module \"pkg\" { }".toList⟩

/-- A backslash in front of `n` becomes the end of a line, and one in front of `d` is refused. -/
theorem escapes_are_read_in_keys :
    ¬ KeepsKey ⟨"", "pkg", "1\\n2"⟩ ∧ ¬ KeepsKey ⟨"", "pkg", "\\d"⟩ ∧
    (documents ⟨"", "pkg", "1\\n2"⟩ ⟨"", [declaringPkg]⟩).map (·.value) =
      .ok [⟨"pkg@1\\n2/index.d.ts", "declare module 'pkg@1\n2' { }"⟩] ∧
    (documents ⟨"", "pkg", "\\d"⟩ ⟨"", [declaringPkg]⟩).map (·.value) =
      .error (.badTemplate "declare module 'pkg@\\d'".toList (.badEscape 'd' 20)) := by
  refine ⟨fun keeps => ?_, fun keeps => ?_, by decide +kernel, by decide +kernel⟩
  · exact not_hasEscape_of_keepsKey (by decide) (by decide) keeps (by decide +kernel)
  · exact not_hasEscape_of_keepsKey (by decide) (by decide) keeps (by decide +kernel)

end AmbientTypes.Declaration
