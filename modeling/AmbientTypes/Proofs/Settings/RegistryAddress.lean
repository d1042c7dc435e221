import AmbientTypes.Proofs.Except
import AmbientTypes.Proofs.Text.Blank
import AmbientTypes.Settings.Basic

namespace AmbientTypes

namespace Json

variable {name other : String} {value : Json} {members : List (String × Json)}

theorem find?_put (name : String) (value : Json) (members : List (String × Json)) :
    find? name (put name value members) = some value := by
  induction members with
  | nil => simp [put, find?]
  | cons m members ih =>
    rw [put]
    split
    · simp [find?]
    · next different =>
      rw [find?, List.find?_cons_of_neg (by simpa using different)]
      exact ih

theorem find?_put_of_ne (different : other ≠ name) :
    find? other (put name value members) = find? other members := by
  induction members with
  | nil => simp [put, find?, Ne.symm different]
  | cons m members ih =>
    rw [put]
    split
    · next same =>
      subst same
      simp [find?, Ne.symm different]
    · simp only [find?, List.find?_cons] at ih ⊢
      split
      · rfl
      · exact ih

end Json

namespace Settings

/-- A blank in front of the slashes at the end of a text, with or without blanks behind them. -/
def HasBlankBeforeSlashes (s : String) : Prop :=
  ∃ (before slashes after : List Char) (c : Char),
    s.toList = before ++ c :: slashes ++ after ∧ Text.isBlank c = true ∧ slashes ≠ [] ∧
      (∀ c ∈ slashes, c = '/') ∧ ∀ c ∈ after, Text.isBlank c = true

/-- A text without blanks at its ends and without slashes at its end. -/
structure IsNormal (s : String) : Prop where
  first : ∀ c ∈ s.toList.head?, Text.isBlank c = false
  solid : ∀ c ∈ s.toList.getLast?, Text.isBlank c = false
  last : ∀ c ∈ s.toList.getLast?, c ≠ '/'

variable {s address : String} {values : List (String × Json)} {settings : Settings}

/-- The text without the blanks at its ends. -/
def unblanked (s : String) : List Char := Text.trimWhile Text.isBlank s.toList

theorem toList_normalAddress (s : String) :
    (normalAddress s).toList = Text.dropEndWhile (· = '/') (unblanked s) := by
  rw [normalAddress, Text.stripSlashes, Text.strip, String.toList_ofList, String.toList_ofList,
    unblanked]

theorem head_normalAddress (s : String) :
    ∀ c ∈ (normalAddress s).toList.head?, Text.isBlank c = false := by
  intro c head
  rw [toList_normalAddress] at head
  obtain ⟨rest, whole⟩ : Text.dropEndWhile (· = '/') (unblanked s) <+:
      s.toList.dropWhile Text.isBlank :=
    (Text.dropEndWhile_prefix _ _).trans (Text.dropEndWhile_prefix _ _)
  have first : c ∈ (s.toList.dropWhile Text.isBlank).head? := by
    rw [← whole, List.head?_append, head]
    rfl
  exact Text.head?_dropWhile first

theorem last_normalAddress (s : String) : ∀ c ∈ (normalAddress s).toList.getLast?, c ≠ '/' := by
  intro c last
  rw [toList_normalAddress] at last
  simpa using Text.getLast?_dropEndWhile last

/-- An address that is in normal form stays as it is. -/
theorem normalAddress_of_isNormal (normal : IsNormal s) : normalAddress s = s := by
  have blanks : unblanked s = s.toList := by
    rw [unblanked, Text.trimWhile, Text.dropWhile_eq_self normal.first,
      Text.dropEndWhile_eq_self_iff]
    exact normal.solid
  rw [← String.toList_inj, toList_normalAddress, blanks, Text.dropEndWhile_eq_self_iff]
  simpa using normal.last

/-- An address that stays as it is has no blank at its end, since those are left out. -/
theorem solid_of_normalAddress_eq (same : normalAddress s = s) :
    ∀ c ∈ s.toList.getLast?, Text.isBlank c = false := by
  have begins := Text.dropEndWhile_prefix (· = '/') (unblanked s)
  rw [← toList_normalAddress, same] at begins
  have shorter : (unblanked s).length ≤ s.toList.length :=
    (Text.dropEndWhile_prefix _ _).length_le.trans (List.dropWhile_suffix _).length_le
  rw [begins.eq_of_length_le shorter]
  exact fun c last => Text.getLast?_dropEndWhile last

theorem normalAddress_eq_self_iff : normalAddress s = s ↔ IsNormal s := by
  refine ⟨fun same => ⟨?_, solid_of_normalAddress_eq same, ?_⟩, normalAddress_of_isNormal⟩
  · exact same ▸ head_normalAddress s
  · exact same ▸ last_normalAddress s

/-- A blank that is kept at the end stood in front of the slashes. -/
theorem hasBlankBeforeSlashes_of_last {c : Char}
    (last : c ∈ (normalAddress s).toList.getLast?) (blank : Text.isBlank c = true) :
    HasBlankBeforeSlashes s := by
  obtain ⟨front, kept⟩ := List.getLast?_eq_some_iff.mp last
  rw [toList_normalAddress] at kept
  obtain ⟨slashes, slash, stripped⟩ := Text.exists_dropEndWhile_append (· = '/') (unblanked s)
  obtain ⟨after, blanks, trimmed⟩ :=
    Text.exists_dropEndWhile_append Text.isBlank (s.toList.dropWhile Text.isBlank)
  have whole : s.toList.dropWhile Text.isBlank = front ++ c :: slashes ++ after := by
    rw [trimmed]
    change unblanked s ++ after = _
    rw [stripped, kept]
    simp
  refine ⟨s.toList.takeWhile Text.isBlank ++ front, slashes, after, c, ?_, blank, ?_,
    by simpa using slash, blanks⟩
  · rw [List.append_assoc, List.append_assoc, ← List.append_assoc front, ← whole,
      List.takeWhile_append_dropWhile]
  · rintro rfl
    rw [kept, List.append_nil] at stripped
    have ends : c ∈ (unblanked s).getLast? := by simp [stripped]
    rw [Text.getLast?_dropEndWhile ends] at blank
    cases blank

/-- A blank in front of the slashes is kept, unless there is nothing else in front of them. -/
theorem exists_last_of_hasBlankBeforeSlashes (marked : HasBlankBeforeSlashes s)
    (full : normalAddress s ≠ "") :
    ∃ c ∈ (normalAddress s).toList.getLast?, Text.isBlank c = true := by
  obtain ⟨before, slashes, after, c, whole, blank, some, slash, blanks⟩ := marked
  obtain ⟨lead, split⟩ := List.dropWhile_suffix (l := before ++ [c]) Text.isBlank
  generalize kept : (before ++ [c]).dropWhile Text.isBlank = rest at split
  have begun : s.toList.dropWhile Text.isBlank = rest ++ slashes ++ after := by
    have solid : (slashes ++ after).dropWhile Text.isBlank = slashes ++ after := by
      refine Text.dropWhile_eq_self fun d head => ?_
      rw [List.head?_append_of_ne_nil _ some] at head
      rw [slash d (List.mem_of_mem_head? head)]
      decide
    have cut : s.toList = (before ++ [c]) ++ (slashes ++ after) := by
      simp [whole]
    rw [cut, List.dropWhile_append, kept, solid, List.append_assoc]
    cases rest <;> rfl
  have trimmed : unblanked s = rest ++ slashes := by
    rw [unblanked, Text.trimWhile, begun, Text.dropEndWhile_append blanks,
      Text.dropEndWhile_eq_self_iff]
    intro d last
    rw [List.getLast?_append_of_ne_nil _ some] at last
    rw [slash d (List.mem_of_getLast? last)]
    decide
  have stripped : (normalAddress s).toList = Text.dropEndWhile (· = '/') rest := by
    rw [toList_normalAddress, trimmed, Text.dropEndWhile_append (by simpa using slash)]
  have filled : rest ≠ [] := by
    rintro rfl
    exact full (String.toList_inj.mp stripped)
  have last : rest.getLast? = Option.some c := by
    have ends := congrArg List.getLast? split
    rwa [List.getLast?_append_of_ne_nil _ filled, List.getLast?_concat] at ends
  have same : Text.dropEndWhile (· = '/') rest = rest := by
    rw [Text.dropEndWhile_eq_self_iff, last]
    rintro d ⟨⟩
    rw [decide_eq_false_iff_not]
    rintro rfl
    exact absurd blank (by decide)
  rw [stripped, same]
  exact ⟨c, last, blank⟩

theorem readAddress_eq_ok_iff : readAddress (.string s) = .ok address ↔
    checkAddress (normalAddress s) = .ok () ∧ address = normalAddress s := by
  constructor
  · intro read
    obtain ⟨⟨⟩, checked, same⟩ := exists_of_bind read
    exact ⟨checked, (Except.ok.inj same).symm⟩
  · rintro ⟨checked, rfl⟩
    rw [readAddress, checked, ok_bind]
    rfl

theorem ne_empty_of_checkAddress (checked : checkAddress address = .ok ()) : address ≠ "" := by
  rintro rfl
  revert checked
  decide +kernel

/-- What settings are read to. -/
theorem ofValues_eq_ok_iff : ofValues values = .ok settings ↔
    field values "registry" readAddress .address Registry.General.defaultBase =
        .ok settings.registry ∧
      field values "max_concurrency" readConcurrency .value ⟨5, by decide⟩ =
        .ok ⟨settings.concurrency, settings.one_le_concurrency, settings.concurrency_le⟩ ∧
      field values "request_timeout" readTimeout .value 30.0 = .ok settings.timeout ∧
      readBuiltins values = .ok settings.builtins ∧
      field values "verbose" readBoolean .value false = .ok settings.verbose := by
  unfold ofValues
  dsimp only
  split
  · next registry concurrency timeout builtins verbose =>
    rw [registry, concurrency, timeout, builtins, verbose]
    cases settings
    simp [Subtype.ext_iff]
  · next faulty =>
    constructor
    · intro read
      cases read
    · rintro ⟨registry, concurrency, timeout, builtins, verbose⟩
      exact (faulty _ _ _ _ _ registry concurrency timeout builtins verbose).elim

theorem field_put_of_ne {α ε : Type} {name other : String} {value : Json} (different : other ≠ name)
    (read : Json → Except ε α) (cause : ε → Cause) (default : α) :
    field (Json.put name value values) other read cause default =
      field values other read cause default := by
  rw [field, field, Json.find?_put_of_ne different]

theorem readBuiltins_put_of_ne {name : String} {value : Json} (different : builtinsName ≠ name) :
    readBuiltins (Json.put name value values) = readBuiltins values := by
  rw [readBuiltins, readBuiltins, Json.find?_put_of_ne different]

theorem field_eq_ok_iff {α ε : Type} {name : String} {value : Json} {read : Json → Except ε α}
    {cause : ε → Cause} {default result : α} (given : Json.find? name values = some value) :
    field values name read cause default = .ok result ↔ read value = .ok result := by
  rw [field, given]
  exact mapError_eq_ok_iff

/-- Settings are read again to the same where the address is given as it is kept. -/
theorem ofValues_put_registry_iff (read : ofValues values = .ok settings) (address : String) :
    ofValues (Json.put "registry" (.string address) values) = .ok settings ↔
      readAddress (.string address) = .ok settings.registry := by
  obtain ⟨-, concurrency, timeout, builtins, verbose⟩ := ofValues_eq_ok_iff.mp read
  rw [ofValues_eq_ok_iff, field_eq_ok_iff (Json.find?_put ..), field_put_of_ne (by decide),
    field_put_of_ne (by decide), field_put_of_ne (by decide), readBuiltins_put_of_ne (by decide)]
  simp [concurrency, timeout, builtins, verbose]

/-- The address of the registry is kept without blanks at its beginning and without slashes at its
end. It is kept with a blank at its end exactly where a blank is given in front of the slashes, and
exactly then the settings are not the same when they are read again with the address as it is
kept. -/
theorem registry_is_normal_iff {s : String} (given : Json.find? "registry" values = some (.string s))
    (read : ofValues values = .ok settings) :
    (∀ c ∈ settings.registry.toList.head?, Text.isBlank c = false) ∧
      (∀ c ∈ settings.registry.toList.getLast?, c ≠ '/') ∧
      ((∀ c ∈ settings.registry.toList.getLast?, Text.isBlank c = false) ↔
        ¬ HasBlankBeforeSlashes s) ∧
      (ofValues (Json.put "registry" (.string settings.registry) values) = .ok settings ↔
        ¬ HasBlankBeforeSlashes s) := by
  have kept := (ofValues_eq_ok_iff.mp read).1
  rw [field_eq_ok_iff given, readAddress_eq_ok_iff] at kept
  obtain ⟨checked, kept⟩ := kept
  have solid : (∀ c ∈ settings.registry.toList.getLast?, Text.isBlank c = false) ↔
      ¬ HasBlankBeforeSlashes s := by
    rw [kept]
    constructor
    · intro solid marked
      obtain ⟨c, last, blank⟩ :=
        exists_last_of_hasBlankBeforeSlashes marked (ne_empty_of_checkAddress checked)
      rw [solid c last] at blank
      cases blank
    · intro unmarked c last
      rw [Bool.eq_false_iff]
      exact fun blank => unmarked (hasBlankBeforeSlashes_of_last last blank)
  have first : ∀ c ∈ settings.registry.toList.head?, Text.isBlank c = false :=
    kept ▸ head_normalAddress s
  have last : ∀ c ∈ settings.registry.toList.getLast?, c ≠ '/' := kept ▸ last_normalAddress s
  refine ⟨first, last, solid, ?_⟩
  rw [ofValues_put_registry_iff read, readAddress_eq_ok_iff, ← solid]
  constructor
  · rintro ⟨-, same⟩
    exact (normalAddress_eq_self_iff.mp same.symm).solid
  · intro full
    have same := normalAddress_eq_self_iff.mpr ⟨first, full, last⟩
    rw [same]
    exact ⟨kept ▸ checked, rfl⟩

/-- Settings of which only the address of the registry is given. -/
theorem ofValues_registry (read : readAddress (.string s) = .ok address) :
    ofValues [("registry", .string s)] = .ok { registry := address } := by
  have named : Json.find? "registry" [("registry", .string s)] = some (.string s) :=
    Json.find?_put "registry" _ []
  rw [ofValues_eq_ok_iff, field_eq_ok_iff named]
  refine ⟨read, ?_, ?_, ?_, ?_⟩
  · simp [field, Json.find?]
  · simp [field, Json.find?]
  · simp [readBuiltins, Json.find?, builtinsName]
  · simp [field, Json.find?]

theorem mirror_registry_is_normal :
    ofValues [("registry", .string "\u00a0https://mirror.test/npm// ")] =
        .ok { registry := "https://mirror.test/npm" } ∧
      ofValues [("registry", .string "https://mirror.test/npm")] =
        .ok { registry := "https://mirror.test/npm" } := by
  have given : ofValues [("registry", .string "\u00a0https://mirror.test/npm// ")] =
      .ok { registry := "https://mirror.test/npm" } := ofValues_registry (by decide +kernel)
  have named : Json.find? "registry" [("registry", .string "\u00a0https://mirror.test/npm// ")] =
      some (.string "\u00a0https://mirror.test/npm// ") := Json.find?_put "registry" _ []
  obtain ⟨-, -, solid, again⟩ := registry_is_normal_iff named given
  have last : "https://mirror.test/npm".toList.getLast? = some 'm' := by decide +kernel
  refine ⟨given, again.mpr (solid.mp fun c final => ?_)⟩
  obtain rfl : 'm' = c := Option.some.inj (last.symm.trans final)
  decide

/-- A blank in front of the last slash is kept, and the address is not the same, or none at all,
when it is read again. -/
theorem registry_keeps_blank :
    ofValues [("registry", .string "https://x/ /")] = .ok { registry := "https://x/ " } ∧
      ofValues [("registry", .string "https://x/ ")] = .ok { registry := "https://x" } ∧
      ofValues [("registry", .string "https:// /")] = .ok { registry := "https:// " } ∧
      ∃ faults, ofValues [("registry", .string "https:// ")] = .error faults := by
  refine ⟨ofValues_registry (by decide +kernel), ofValues_registry (by decide +kernel),
    ofValues_registry (by decide +kernel), ?_⟩
  cases read : ofValues [("registry", .string "https:// ")] with
  | error faults => exact ⟨faults, rfl⟩
  | ok settings =>
    have kept := (ofValues_eq_ok_iff.mp read).1
    have named : Json.find? "registry" [("registry", .string "https:// ")] =
        some (.string "https:// ") := Json.find?_put "registry" _ []
    rw [field_eq_ok_iff named, readAddress_eq_ok_iff] at kept
    exact absurd kept.1 (by decide +kernel)

end Settings

end AmbientTypes
