import AmbientTypes.Proofs.Declaration.Document
import AmbientTypes.Proofs.Declaration.Renaming

namespace AmbientTypes

namespace Package

/-- The words that name no binding in a module. -/
def reservedWords : List String := [
  "break", "case", "catch", "class", "const", "continue", "debugger", "default", "delete", "do",
  "else", "enum", "export", "extends", "false", "finally", "for", "function", "if", "import", "in",
  "instanceof", "new", "null", "return", "super", "switch", "this", "throw", "true", "try",
  "typeof", "var", "void", "while", "with",
  -- These are reserved only in modules and other strict code.
  "await", "implements", "interface", "let", "package", "private", "protected", "public", "static",
  "yield"]

/-- A name with the form of an identifier within ASCII. -/
structure IsIdentifier (name : String) : Prop where
  full : name ≠ ""
  chars : ∀ c ∈ name.toList, c.isAlphanum = true ∨ c = '_'
  first : ∀ c ∈ name.toList.head?, c.isDigit = false

/-- A name that a module may bind. -/
structure IsBindable (name : String) : Prop where
  identifier : IsIdentifier name
  free : name ∉ reservedWords

variable {name word : String} {c : Char}

/-- A character as it stands in a variable. -/
def variableChar (c : Char) : Char := if c.isAlphanum then c else '_'

theorem variableChar_cases (c : Char) :
    (variableChar c).isAlphanum = true ∨ variableChar c = '_' := by
  unfold variableChar
  split
  · next kept => exact .inl kept
  · exact .inr rfl

/-- A variable is the name character by character, with an underscore in front of a digit and in
place of nothing. -/
theorem toList_variableName (name : String) : (variableName name).toList =
    if (name.toList.map variableChar).head?.all Char.isDigit then
      '_' :: name.toList.map variableChar
    else name.toList.map variableChar := by
  have mapped : (name.toList.map fun c => if c.isAlphanum then c else '_') =
      name.toList.map variableChar := rfl
  unfold variableName
  rw [mapped]
  cases chars : name.toList.map variableChar with
  | nil => simp
  | cons c cs => cases first : c.isDigit <;> simp [first]

theorem isIdentifier_variableName (name : String) : IsIdentifier (variableName name) := by
  have chars : ∀ c ∈ name.toList.map variableChar, c.isAlphanum = true ∨ c = '_' := by
    intro c mem
    obtain ⟨d, -, rfl⟩ := List.mem_map.mp mem
    exact variableChar_cases d
  have whole := toList_variableName name
  split at whole
  · refine ⟨?_, ?_, ?_⟩
    · intro none
      rw [none] at whole
      cases whole
    · rw [whole]
      simpa using chars
    · rw [whole]
      rintro c ⟨⟩
      decide
  · next other =>
    refine ⟨?_, ?_, ?_⟩
    · intro none
      rw [none] at whole
      rw [← whole] at other
      exact other (by simp)
    · rw [whole]
      exact chars
    · rw [whole]
      intro c head
      rw [head] at other
      simpa using other

theorem not_isDigit_of_isAlpha (letter : c.isAlpha = true) : ¬ c.isDigit = true := by
  delta Char.isAlpha Char.isUpper Char.isLower at letter
  delta Char.isDigit
  simp only [Bool.or_eq_true, Bool.and_eq_true, decide_eq_true_eq, UInt32.le_iff_toNat_le,
    ge_iff_le, Char.reduceVal, UInt32.reduceToNat] at letter ⊢
  omega

theorem variableChar_eq_of_isAlpha (letter : (variableChar c).isAlpha = true) :
    variableChar c = c := by
  unfold variableChar at letter ⊢
  split
  · rfl
  · next other =>
    rw [if_neg other] at letter
    exact absurd letter (by decide)

/-- Words of letters are made from themselves, and from no other names. -/
theorem variableName_eq_iff_of_isAlpha (full : word ≠ "")
    (letters : ∀ c ∈ word.toList, c.isAlpha = true) : variableName name = word ↔ name = word := by
  constructor
  · intro same
    rw [← String.toList_inj, toList_variableName] at same
    split at same
    · have mark := letters '_' (same ▸ List.mem_cons_self)
      exact absurd mark (by decide)
    · have kept : name.toList.map variableChar = name.toList.map id := by
        refine List.map_congr_left fun c mem => variableChar_eq_of_isAlpha (letters _ ?_)
        exact same ▸ List.mem_map_of_mem mem
      rw [kept, List.map_id] at same
      exact String.toList_inj.mp same
  · rintro rfl
    have kept : name.toList.map variableChar = name.toList.map id := by
      refine List.map_congr_left fun c mem => ?_
      rw [variableChar, Char.isAlphanum, letters c mem, Bool.true_or, if_pos rfl]
      rfl
    rw [← String.toList_inj, toList_variableName, kept, List.map_id, if_neg]
    intro digits
    obtain ⟨c, cs, chars⟩ := List.exists_cons_of_ne_nil (l := name.toList) (by simpa using full)
    rw [chars] at digits letters
    exact not_isDigit_of_isAlpha (letters c List.mem_cons_self) digits

theorem letters_of_mem_reservedWords (mem : word ∈ reservedWords) :
    word ≠ "" ∧ ∀ c ∈ word.toList, c.isAlpha = true := by
  have all : ∀ word ∈ reservedWords, word ≠ "" ∧ word.toList.all Char.isAlpha = true := by
    decide +kernel
  exact ⟨(all word mem).1, List.all_eq_true.mp (all word mem).2⟩

theorem variableName_mem_reservedWords_iff :
    variableName name ∈ reservedWords ↔ name ∈ reservedWords := by
  constructor
  · intro mem
    obtain ⟨full, letters⟩ := letters_of_mem_reservedWords mem
    rwa [← (variableName_eq_iff_of_isAlpha full letters).mp rfl] at mem
  · intro mem
    obtain ⟨full, letters⟩ := letters_of_mem_reservedWords mem
    rwa [(variableName_eq_iff_of_isAlpha full letters).mpr rfl]

theorem isBindable_variableName_iff :
    IsBindable (variableName name) ↔ name ∉ reservedWords := by
  rw [← variableName_mem_reservedWords_iff]
  exact ⟨fun bindable => bindable.free, fun free => ⟨isIdentifier_variableName name, free⟩⟩

end Package

namespace Declaration

/-- A module that imports a binding from a place and exports it. -/
def boundModule (moduleKey name place : String) : String :=
  "declare module '" ++ moduleKey ++ "' \x7b\n" ++
    ("import " ++ name ++ " from \"" ++ place ++ "\";\nexport = " ++ name ++ ";") ++ "\n\x7d"

variable {d : Dependency} {types : Declarations} {entry : ArchiveFile}

/-- Where the entry declares no module of the package's name, the last document is the side-car. -/
theorem documents_of_undeclared (regular : d.IsRegular) (general : d.registry ≠ "jsr")
    (chosen : entryFile? d types.entry types.files = some entry)
    (undeclared : ¬ DeclaresModule d.name entry.text) :
    documents d types = .ok ⟨referred d entry types.files ++
      [⟨d.documentPath entry.path, entry.text⟩, sidecar d (d.documentPath entry.path)], []⟩ := by
  have none : (clauses d.name entry.text).isEmpty = true := by
    rw [declaresModule_iff] at undeclared
    simpa using undeclared
  rw [documents_of_entryFile? regular.name_ne_empty general chosen, entryDocuments_eq regular,
    entryPart, none, if_pos rfl]
  rfl

/-- The side-car of a package that a specifier names is a module of the package's key, which stands
in its quotes, and imports and exports a name with the form of an identifier. The name may be bound
unless the package is named like a reserved word. -/
theorem sidecar_binds_unless_reserved {s : String} (read : Dependency.ofSpecifier? s = some d)
    (general : d.registry ≠ "jsr")
    (chosen : entryFile? d types.entry types.files = some entry)
    (undeclared : ¬ DeclaresModule d.name entry.text) :
    ∃ made name place, documents d types = .ok ⟨made ++
        [⟨d.documentRoot ++ "/" ++ "__types__.d.ts", boundModule d.moduleKey name place⟩], []⟩ ∧
      IsQuotable d.moduleKey.toList ∧ '\\' ∉ d.moduleKey.toList ∧
      Package.IsIdentifier name ∧
      (Package.IsBindable name ↔ d.name ∉ Package.reservedWords) := by
  have regular := Dependency.isRegular_of_ofSpecifier? read
  have given := documents_of_undeclared regular general chosen undeclared
  refine ⟨referred d entry types.files ++ [⟨d.documentPath entry.path, entry.text⟩],
    Package.variableName d.name,
    (Text.beforeEnd? Dependency.declarationEnd (d.documentPath entry.path)).getD
      (d.documentPath entry.path),
    ?_, isQuotable_moduleKey read, regular.backslash_not_mem_moduleKey,
    Package.isIdentifier_variableName d.name, Package.isBindable_variableName_iff⟩
  rw [given, List.append_assoc]
  rfl

/-- An entry that declares no module. -/
def plainEntry : ArchiveFile := ⟨"package/index.d.ts", "export {};".toUTF8.toList⟩

def plainTypes : Declarations := ⟨"", [plainEntry]⟩

theorem scoped_sidecar_binds :
    Dependency.ofSpecifier? "npm:@a/3d-b/c@1.0" = some ⟨"npm", "@a/3d-b", "1.0"⟩ ∧
      ∃ made name place, documents ⟨"npm", "@a/3d-b", "1.0"⟩ plainTypes = .ok ⟨made ++
          [⟨"npm/@a/3d-b@1.0" ++ "/" ++ "__types__.d.ts",
            boundModule "npm:@a/3d-b@1.0" name place⟩], []⟩ ∧
        Package.IsBindable name := by
  have read : Dependency.ofSpecifier? "npm:@a/3d-b/c@1.0" = some ⟨"npm", "@a/3d-b", "1.0"⟩ := by
    decide +kernel
  have chosen : entryFile? ⟨"npm", "@a/3d-b", "1.0"⟩ plainTypes.entry plainTypes.files =
      some plainEntry := by decide +kernel
  have undeclared : ¬ DeclaresModule "@a/3d-b" plainEntry.text := by
    rw [declaresModule_iff]
    decide +kernel
  obtain ⟨made, name, place, given, -, -, -, bindable⟩ :=
    sidecar_binds_unless_reserved read (by decide) chosen undeclared
  exact ⟨read, made, name, place, given, bindable.mpr (by decide +kernel)⟩

/-- A package that is named like a reserved word has a side-car that binds the word. -/
theorem sidecar_binds_reserved_word :
    Dependency.ofSpecifier? "enum" = some ⟨"", "enum", ""⟩ ∧
      documents ⟨"", "enum", ""⟩ plainTypes = .ok ⟨[⟨"enum/index.d.ts", "export {};"⟩,
        ⟨"enum/__types__.d.ts", boundModule "enum" "enum" "enum/index"⟩], []⟩ ∧
      "enum" ∈ Package.reservedWords := by
  have read : Dependency.ofSpecifier? "enum" = some ⟨"", "enum", ""⟩ := by decide +kernel
  have undeclared : ¬ DeclaresModule "enum" plainEntry.text := by
    rw [declaresModule_iff]
    decide +kernel
  have chosen : entryFile? ⟨"", "enum", ""⟩ plainTypes.entry plainTypes.files = some plainEntry := by
    decide +kernel
  have given := documents_of_undeclared (Dependency.isRegular_of_ofSpecifier? read) (by decide)
    chosen undeclared
  have made : referred ⟨"", "enum", ""⟩ plainEntry plainTypes.files ++
      [⟨Dependency.documentPath ⟨"", "enum", ""⟩ plainEntry.path, plainEntry.text⟩,
        sidecar ⟨"", "enum", ""⟩ (Dependency.documentPath ⟨"", "enum", ""⟩ plainEntry.path)] =
      [⟨"enum/index.d.ts", "export {};"⟩,
        ⟨"enum/__types__.d.ts", boundModule "enum" "enum" "enum/index"⟩] := by decide +kernel
  exact ⟨read, made ▸ given, by decide⟩

end Declaration

end AmbientTypes
