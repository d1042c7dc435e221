import AmbientTypes.Resolution.Interleaving

namespace AmbientTypes.Resolution

variable {w : World} {d : Dependency} {stage : Stage} {outcome : Outcome}
  {sources : Registry.Sources} {reply reply' : Except Registry.Fault Declarations}

theorem settle_ok (d : Dependency) (found : List Document) :
    (settle d (.ok found)).value = .ok found := by
  cases found <;> rfl

theorem settle_of_contract {e : Fault} (contract : e.isContract = true) :
    (settle d (.error e)).value = .error e := by
  rw [settle, if_pos contract]
  rfl

theorem settle_of_not_contract {e : Fault} (failure : e.isContract = false) :
    (settle d (.error e)).value = .ok [] := by
  rw [settle, if_neg (by simp [failure])]
  rfl

theorem ok_of_settle {outcome : Outcome}
    (failure : ∀ e, outcome = .error e → e.isContract = false) :
    ∃ found, (settle d outcome).value = .ok found := by
  cases outcome with
  | ok found => exact ⟨found, settle_ok d found⟩
  | error e => exact ⟨[], settle_of_not_contract (failure e rfl)⟩

theorem documents_ne_emptyName (named : d.name ≠ "") (types : Declarations) :
    Declaration.documents d types ≠ .error .emptyName := by
  have full : d.name.isEmpty = false := by simpa using named
  have entry : ∀ file, Declaration.entryDocuments d file ≠ .error .emptyName := by
    intro file
    simp only [Declaration.entryDocuments]
    split
    · simp
    · cases Declaration.readTemplate (Declaration.clauseTemplate d) <;> simp
  unfold Declaration.documents Declaration.fromEntry
  rw [full, if_neg Bool.false_ne_true]
  split
  · simp
  split
  · simp
  split
  · simp
  · next file _ =>
    cases made : Declaration.entryDocuments d file with
    | ok found =>
      intro bad
      cases bad
    | error e =>
      intro bad
      have same : e = .emptyName := Except.error.inj bad
      exact entry file (same ▸ made)

theorem generate_value (d : Dependency) (types : Declarations) :
    (generate d types).run.value =
      if types.files.isEmpty then .ok []
      else match Declaration.documents d types with
        | .ok found => .ok found.value
        | .error e => .error (.declaration e) := by
  unfold generate
  split
  · rfl
  · cases Declaration.documents d types <;> rfl

theorem generate_isContract (named : d.name ≠ "") {types : Declarations} {e : Fault}
    (bad : (generate d types).run.value = .error e) : e.isContract = false := by
  rw [generate_value] at bad
  split at bad
  · cases bad
  split at bad
  · cases bad
  · next fault made =>
    obtain rfl := Except.error.inj bad
    cases fault with
    | emptyName => exact absurd made (documents_ne_emptyName named types)
    | badTemplate => rfl

theorem conclude_ok (named : d.name ≠ "") {reply : Except Registry.Fault Declarations}
    (told : reply ≠ .error .emptyName) : ∃ found, conclude d reply = .ok found := by
  cases reply with
  | ok types => exact ok_of_settle fun e => generate_isContract named
  | error e =>
    apply ok_of_settle
    intro fault same
    obtain rfl := Except.error.inj same
    cases e with
    | emptyName => exact absurd rfl told
    | _ => rfl

theorem typesPackage_ne_empty (name : String) : Package.typesPackage name ≠ "" := by
  intro empty
  have same := congrArg String.toList empty
  simp [Package.typesPackage, Package.typesScope] at same

/-- Others' declarations are none where they cannot be resolved. -/
theorem acceptFallback_value (d : Dependency) (reply : Except Registry.Fault Declarations) :
    (acceptFallback d reply).run.value = match reply with
      | .ok types => .ok types
      | .error e => if e.isResolution then .ok ⟨"", []⟩ else .error e := by
  cases reply with
  | ok types => rfl
  | error e =>
    cases resolution : e.isResolution
    · simp [acceptFallback, resolution]
    · simp only [acceptFallback, resolution]
      rfl

theorem Concludes.ok_of_named (finished : Concludes w d stage outcome) (named : d.name ≠ "") :
    ∃ found, outcome = .ok found := by
  cases finished with
  | replied told enough =>
    apply conclude_ok named
    intro same
    subst same
    exact named (w.eq_empty_of_replies told)
  | @fallbackReplied reply told =>
    apply conclude_ok named
    rw [acceptFallback_value]
    cases reply with
    | ok types => simp
    | error e =>
      intro refused
      have same : e = .emptyName := by
        cases resolution : e.isResolution <;> simp [resolution] at refused
        exact refused
      rw [same] at told
      exact typesPackage_ne_empty d.name (w.eq_empty_of_replies told)
  | crashed running crash =>
    exact ⟨[], settle_of_not_contract (w.isContract_of_crashes crash)⟩

theorem fallback_value (source : Registry.Source) (d : Dependency) :
    (fallback source d).run.value =
      (acceptFallback d (source (Package.typesPackage d.name) d.version).run.value).run.value := rfl

theorem declarations_value (sources : Registry.Sources) (d : Dependency) :
    (declarations sources d).run.value =
      match (sources (Registry.Kind.ofTag d.registry) d.name d.version).run.value with
      | .error e => .error e
      | .ok types =>
        if needsFallback d types then
          (fallback (sources (Registry.Kind.ofTag d.registry)) d).run.value
        else .ok types := by
  rw [declarations, Journaled.run_bind_value]
  split
  · next types told =>
    rw [told]
    dsimp only
    split <;> rfl
  · next e told => rw [told]

theorem documents_value (sources : Registry.Sources) (d : Dependency) :
    (documents sources d).run.value =
      if d.name = "" then .error (.declaration .emptyName)
      else match (declarations sources d).run.value with
        | .ok types => (generate d types).run.value
        | .error e => .error (.registry e) := by
  by_cases nameless : d.name = ""
  · rw [if_pos nameless, documents, if_pos (by simp [nameless])]
    rfl
  · rw [if_neg nameless, documents, if_neg (by simpa using nameless), Journaled.run_bind_value,
      Journaled.adapt_value]
    cases (declarations sources d).run.value <;> rfl

theorem loadTaken_eq_settle (sources : Registry.Sources) (d : Dependency) :
    (loadTaken sources d).value = (settle d (documents sources d).run.value).value := rfl

theorem loadTaken_of_nameless (nameless : d.name = "") :
    (loadTaken sources d).value = .error (.declaration .emptyName) := by
  rw [loadTaken_eq_settle, documents_value, if_pos nameless]
  exact settle_of_contract rfl

theorem loadTaken_of_replied (named : d.name ≠ "")
    (told : (sources (Registry.Kind.ofTag d.registry) d.name d.version).run.value = reply)
    (enough : isFollowed d reply = false) :
    (loadTaken sources d).value = conclude d reply := by
  rw [loadTaken_eq_settle, documents_value, if_neg named, declarations_value, told]
  cases reply with
  | error e => rfl
  | ok types =>
    have whole : needsFallback d types = false := enough
    simp only [whole]
    rfl

theorem loadTaken_of_fallbackReplied (named : d.name ≠ "")
    (told : (sources (Registry.Kind.ofTag d.registry) d.name d.version).run.value = reply)
    (more : isFollowed d reply = true)
    (told' : (sources (Registry.Kind.ofTag d.registry) (Package.typesPackage d.name)
      d.version).run.value = reply') :
    (loadTaken sources d).value = conclude d (acceptFallback d reply').run.value := by
  rw [loadTaken_eq_settle, documents_value, if_neg named, declarations_value, told]
  cases reply with
  | error e => cases more
  | ok types =>
    have empty : needsFallback d types = true := more
    simp only [empty, if_true]
    rw [fallback_value, told']
    cases (acceptFallback d reply').run.value <;> rfl

/-- The documents of a package; none where they cannot be given. -/
def found (sources : Registry.Sources) (d : Dependency) : List Document :=
  match (documents sources d).run.value with
  | .ok found => found
  | .error _ => []

theorem eq_found_of_loadTaken {more : List Document}
    (given : (loadTaken sources d).value = .ok more) : more = found sources d := by
  rw [loadTaken_eq_settle] at given
  unfold found
  cases made : (documents sources d).run.value with
  | ok all =>
    rw [made, settle_ok] at given
    exact (Except.ok.inj given).symm
  | error e =>
    rw [made] at given
    cases contract : e.isContract with
    | true =>
      rw [settle_of_contract contract] at given
      cases given
    | false =>
      rw [settle_of_not_contract contract] at given
      exact (Except.ok.inj given).symm

end AmbientTypes.Resolution
