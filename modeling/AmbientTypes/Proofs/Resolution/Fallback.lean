import AmbientTypes.Proofs.Declaration.Addressable
import AmbientTypes.Proofs.Declaration.Literal
import AmbientTypes.Proofs.Declaration.Places
import AmbientTypes.Proofs.Registry.Request
import AmbientTypes.Proofs.Resolution.Protocol
import AmbientTypes.Proofs.Resolution.Sequential

namespace AmbientTypes.Resolution

open Registry Declaration

/-- The requests that a computation makes. -/
def requests {α : Type} (x : Journaled α) : List String := x.events.filterMap Event.request?

/-- What the registry of a package replies about the package with a name, in the same version. -/
def reply (sources : Sources) (d : Dependency) (name : String) :
    Except Registry.Fault Declarations :=
  (sources (Kind.ofTag d.registry) name d.version).run.value

/-- A package without declarations of its own that others may have written some for. -/
structure FallsBack (sources : Sources) (d : Dependency) : Prop where
  empty : ∃ entry, reply sources d d.name = .ok ⟨entry, []⟩
  general : Text.lower d.registry ≠ "jsr"
  unscoped : ∀ rest, d.name ≠ "@" ++ rest

/-- Sources that leave one mark each time they are asked, and reply the same. -/
def marking (mark : Kind → String → String → String) (sources : Sources) : Sources :=
  fun kind name version =>
    ⟨(sources kind name version).run.value, [.request (mark kind name version)]⟩

variable {α β ε : Type} {sources sources' : Sources} {d : Dependency} {types : Declarations}
  {c : Cache}

theorem requests_bind (x : Journaled α) (f : α → Journaled β) :
    requests (x >>= f) = requests x ++ requests (f x.value) := List.filterMap_append ..

theorem requests_log (severity : Logging.Severity) (event : String)
    (fields : List (String × Json)) : requests (Journaled.log severity event fields) = [] := rfl

theorem requests_run_bind (x : ExceptT ε Journaled α) (f : α → ExceptT ε Journaled β) :
    requests (x >>= f).run = requests x.run ++ match x.run.value with
      | .ok a => requests (f a).run
      | .error _ => [] := by
  rw [requests, AsksFirst.run_bind_events, List.filterMap_append]
  cases x.run.value <;> rfl

theorem requests_run_lift (x : Journaled α) :
    requests (ExceptT.lift x : ExceptT ε Journaled α).run = requests x :=
  congrArg (List.filterMap Event.request?) (List.append_nil x.events)

theorem requests_adapt {δ : Type} (f : ε → δ) (x : ExceptT ε Journaled α) :
    requests (x.adapt f).run = requests x.run := by
  rw [requests, AsksFirst.adapt_events]
  rfl

theorem requests_settle (d : Dependency) (outcome : Outcome) :
    requests (settle d outcome) = [] := by
  unfold settle
  split
  · rfl
  · rfl
  · split <;> rfl

theorem requests_selfContained (d : Dependency) (files : List ArchiveFile) :
    requests (selfContained d files) = [] := by
  rw [requests, selfContained, List.filterMap_eq_nil_iff]
  intro event mem
  obtain ⟨f, -, rfl⟩ := List.mem_map.mp mem
  rfl

theorem requests_documents (named : d.name ≠ "") {found : Journaled (List Document)}
    (made : Declaration.documents d types = .ok found) : requests found = [] := by
  rw [Declaration.documents, if_neg (by simpa using named)] at made
  split at made
  · obtain rfl := Except.ok.inj made
    rfl
  split at made
  · obtain rfl := Except.ok.inj made
    exact requests_selfContained d types.files
  unfold fromEntry at made
  split at made
  · obtain rfl := Except.ok.inj made
    rfl
  · next entry chosen =>
    cases own : entryDocuments d entry with
    | error e =>
      rw [own] at made
      cases made
    | ok own' =>
      rw [own] at made
      obtain rfl := Except.ok.inj made
      rfl

theorem requests_generate (named : d.name ≠ "") (types : Declarations) :
    requests (generate d types).run = [] := by
  unfold generate
  split
  · rfl
  · cases made : Declaration.documents d types with
    | error e => rfl
    | ok found => exact (requests_run_lift found).trans (requests_documents named made)

theorem requests_acceptFallback (d : Dependency) (reply : Except Registry.Fault Declarations) :
    requests (acceptFallback d reply).run = [] := by
  cases reply with
  | ok types => rfl
  | error e =>
    simp only [acceptFallback]
    cases e.isResolution <;> rfl

theorem requests_fallback (source : Source) (d : Dependency) :
    requests (fallback source d).run =
      requests (source (Package.typesPackage d.name) d.version).run := by
  have told := requests_run_bind (ExceptT.lift (announceFallback d)) fun _ =>
    ExceptT.lift (source (Package.typesPackage d.name) d.version).run >>= acceptFallback d
  have asked := requests_run_bind
    (ExceptT.lift (source (Package.typesPackage d.name) d.version).run) (acceptFallback d)
  rw [requests_run_lift] at asked
  refine told.trans (asked.trans ?_)
  exact (congrArg _ (requests_acceptFallback d _)).trans (List.append_nil _)

theorem requests_declarations (sources : Sources) (d : Dependency) :
    requests (declarations sources d).run =
      requests (sources (Kind.ofTag d.registry) d.name d.version).run ++
        if isFollowed d (reply sources d d.name) then
          requests (sources (Kind.ofTag d.registry) (Package.typesPackage d.name) d.version).run
        else [] := by
  rw [declarations, requests_run_bind, reply]
  congr 1
  cases (sources (Kind.ofTag d.registry) d.name d.version).run.value with
  | error e => rfl
  | ok types =>
    dsimp only
    by_cases more : needsFallback d types = true
    · have followed : isFollowed d (.ok types) = true := more
      rw [if_pos more, if_pos followed, requests_fallback]
    · have enough : ¬ isFollowed d (.ok types) = true := more
      rw [if_neg more, if_neg enough]
      rfl

theorem requests_loadTaken (sources : Sources) (named : d.name ≠ "") :
    requests (loadTaken sources d) = requests (declarations sources d).run := by
  rw [loadTaken, requests_bind, requests_log, List.nil_append, requests_bind, requests_settle,
    List.append_nil, documents, if_neg (by simpa using named), requests_run_bind, requests_adapt]
  split
  · rw [requests_generate named, List.append_nil]
  · exact List.append_nil _

theorem requests_load (named : d.name ≠ "") (free : c.holds d.key = false) :
    requests ((load sources d).run c) = requests (declarations sources d).run := by
  cases taken : c.acquire? d.key with
  | none =>
    rw [Cache.acquire?_eq_none_iff.mp taken] at free
    cases free
  | some cache =>
    have taking : (load sources d).run c =
        loadTaken sources d >>= fun outcome => pure (outcome, cache.clearInFlight d.key) := by
      simp [load, taken]
    rw [taking, requests_bind, requests_loadTaken sources named]
    exact List.append_nil _

theorem isFollowed_iff : isFollowed d (reply sources d d.name) = true ↔ FallsBack sources d := by
  have general : Kind.ofTag d.registry = .general ↔ Text.lower d.registry ≠ "jsr" := by
    have entryless := @Kind.ofTag_eq_entryless_iff d.registry
    cases kind : Kind.ofTag d.registry <;> simp_all [entrylessRegistry]
  have unscoped : Text.startsWith "@" d.name = false ↔ ∀ rest, d.name ≠ "@" ++ rest := by
    rw [← Bool.not_eq_true, Text.startsWith_iff, not_exists]
  constructor
  · intro followed
    cases told : reply sources d d.name with
    | error e =>
      rw [told] at followed
      cases followed
    | ok types =>
      rw [told] at followed
      simp only [isFollowed, needsFallback, hasFallback, Bool.and_eq_true, List.isEmpty_iff,
        decide_eq_true_eq, Bool.not_eq_true'] at followed
      obtain ⟨empty, kind, start⟩ := followed
      exact ⟨⟨types.entry, by rw [told, ← empty]⟩, general.mp kind, unscoped.mp start⟩
  · intro falls
    obtain ⟨⟨entry, told⟩, kind, start⟩ := falls
    rw [told]
    simp only [isFollowed, needsFallback, hasFallback, Bool.and_eq_true, List.isEmpty_nil,
      decide_eq_true_eq, Bool.not_eq_true', true_and]
    exact ⟨general.mpr kind, unscoped.mpr start⟩

theorem loadTaken_of_fallsBack (named : d.name ≠ "") (falls : FallsBack sources d) :
    (loadTaken sources d).value =
      conclude d (acceptFallback d (reply sources d (Package.typesPackage d.name))).run.value :=
  loadTaken_of_fallbackReplied named rfl (isFollowed_iff.mpr falls) rfl

theorem documents_of_fallsBack (named : d.name ≠ "") (falls : FallsBack sources d)
    (told : reply sources d (Package.typesPackage d.name) = .ok types) :
    (documents sources d).run.value = (generate d types).run.value := by
  obtain ⟨entry, empty⟩ := falls.empty
  have more : needsFallback d ⟨entry, []⟩ = true := by
    have followed := isFollowed_iff.mpr falls
    rw [empty] at followed
    exact followed
  rw [reply] at empty told
  rw [documents_value, if_neg named, declarations_value, empty]
  simp only [more, if_true]
  rw [fallback_value, told]
  rfl

theorem conclude_of_empty (empty : types.files = []) : conclude d (.ok types) = .ok [] := by
  rw [conclude, generate_value, empty]
  rfl

/-- A failure of the second question is that of one package only. -/
theorem conclude_of_failure {e : Registry.Fault} (failure : e ≠ .emptyName) :
    conclude d (acceptFallback d (.error e)).run.value = .ok [] := by
  rw [acceptFallback_value]
  dsimp only
  split
  · exact conclude_of_empty rfl
  · apply settle_of_not_contract
    cases e <;> first | rfl | exact absurd rfl failure

/-- Documents are made of what is replied as of declarations of the package's own. -/
theorem place_and_name_of_generate (named : d.name ≠ "") {given : List Document}
    (made : (generate d types).run.value = .ok given) :
    (∀ doc ∈ given, ∃ relative, doc.path = d.documentRoot ++ "/" ++ relative) ∧
    (¬ HasEscape d.moduleKey.toList → given ≠ [] → ∃ doc ∈ given, Names d doc.content) := by
  rw [generate_value] at made
  split at made
  · obtain rfl := Except.ok.inj made
    exact ⟨fun doc mem => absurd mem List.not_mem_nil, fun _ some => absurd rfl some⟩
  · cases own : Declaration.documents d types with
    | error e =>
      rw [own] at made
      cases made
    | ok found =>
      rw [own] at made
      obtain rfl := Except.ok.inj made
      refine ⟨fun doc => exists_place_of_documents named own, fun plain some => ?_⟩
      obtain ⟨events, whole⟩ := documents_of_not_hasEscape named
        (mt hasEscape_clauseTemplate_iff.mp plain) types
      obtain rfl := Except.ok.inj (own.symm.trans whole)
      exact exists_names some

/-- The marks that a load leaves behind. -/
def marks (mark : Kind → String → String → String) (sources : Sources) (d : Dependency)
    (c : Cache) : List String := requests ((load (marking mark sources) d).run c)

theorem marks_eq (mark : Kind → String → String → String) (sources : Sources) (named : d.name ≠ "")
    (free : c.holds d.key = false) :
    marks mark sources d c = mark (Kind.ofTag d.registry) d.name d.version ::
      if isFollowed d (reply sources d d.name) then
        [mark (Kind.ofTag d.registry) (Package.typesPackage d.name) d.version]
      else [] := by
  rw [marks, requests_load named free, requests_declarations]
  rfl

theorem load_value_congr (same : (loadTaken sources d).value = (loadTaken sources' d).value)
    (c : Cache) : ((load sources d).run c).value = ((load sources' d).run c).value := by
  rw [load_value, load_value, same]

/-- A load whose key is free asks for its package once, and then for the package of its types, in
the same version, exactly if the first reply is empty and the package is neither scoped nor of the
entryless registry; it asks for nothing else. Of a second reply, documents are made as of the
package's own declarations: all stand below its directory, and if its key has no escape, the module
of the key is in one of them. A second question that fails gives the same documents, and leaves the
same cache, as one with an empty reply. -/
theorem others_are_asked_where_the_package_is_empty (sources : Sources) (d : Dependency)
    (named : d.name ≠ "") :
    (∀ (mark : Kind → String → String → String) (c : Cache), c.holds d.key = false →
      (FallsBack sources d → marks mark sources d c =
        [mark (Kind.ofTag d.registry) d.name d.version,
          mark (Kind.ofTag d.registry) ("@types/" ++ Package.flatName d.name) d.version]) ∧
      (¬ FallsBack sources d → marks mark sources d c =
        [mark (Kind.ofTag d.registry) d.name d.version])) ∧
    (FallsBack sources d → ∀ types,
      reply sources d ("@types/" ++ Package.flatName d.name) = .ok types →
      (documents sources d).run.value = (generate d types).run.value ∧
      ∀ given, (documents sources d).run.value = .ok given →
        (∀ doc ∈ given, ∃ relative, doc.path = d.documentRoot ++ "/" ++ relative) ∧
        (¬ HasEscape d.moduleKey.toList → given ≠ [] → ∃ doc ∈ given, Names d doc.content)) ∧
    (FallsBack sources d → ∀ e,
      reply sources d ("@types/" ++ Package.flatName d.name) = .error e → e ≠ .emptyName →
      ∀ (sources' : Sources) (types : Declarations),
        reply sources' d d.name = reply sources d d.name →
        reply sources' d ("@types/" ++ Package.flatName d.name) = .ok types → types.files = [] →
        ∀ c : Cache, ((load sources d).run c).value = ((load sources' d).run c).value) := by
  refine ⟨fun mark c free => ?_, fun falls types told => ?_,
    fun falls e failed failure sources' types first told empty => ?_⟩
  · rw [marks_eq mark sources named free, ← isFollowed_iff]
    exact ⟨fun followed => by rw [if_pos followed]; rfl, fun enough => by rw [if_neg enough]⟩
  · have made := documents_of_fallsBack named falls told
    exact ⟨made, fun given value => place_and_name_of_generate named (made.symm.trans value)⟩
  · -- Both loads end with no documents; the cache only shows that the key was taken.
    have falls' : FallsBack sources' d := ⟨first ▸ falls.empty, falls.general, falls.unscoped⟩
    have failed' : reply sources d (Package.typesPackage d.name) = .error e := failed
    have told' : reply sources' d (Package.typesPackage d.name) = .ok types := told
    apply load_value_congr
    rw [loadTaken_of_fallsBack named falls, loadTaken_of_fallsBack named falls', failed', told',
      conclude_of_failure failure, acceptFallback_value]
    exact (conclude_of_empty empty).symm

/-- Sources that know the types of `pkg` only. -/
def typesOfPkg : Sources :=
  fun _ name _ => pure ⟨"", if name = "@types/pkg" then [declaringPkg] else []⟩

theorem types_of_pkg_are_asked_for :
    marks (fun _ name version => name ++ " " ++ version) typesOfPkg ⟨"", "pkg", "1"⟩ .empty =
      ["pkg 1", "@types/pkg 1"] ∧
    ∃ given, (documents typesOfPkg ⟨"", "pkg", "1"⟩).run.value = .ok given ∧
      ∃ doc ∈ given, Names ⟨"", "pkg", "1"⟩ doc.content := by
  have falls : FallsBack typesOfPkg ⟨"", "pkg", "1"⟩ := isFollowed_iff.mp (by decide +kernel)
  obtain ⟨asked, made, -⟩ :=
    others_are_asked_where_the_package_is_empty typesOfPkg ⟨"", "pkg", "1"⟩ (by decide)
  obtain ⟨same, given⟩ := made falls ⟨"", [declaringPkg]⟩ rfl
  have renamed : (fromEntry ⟨"", "pkg", "1"⟩ ⟨"", [declaringPkg]⟩).map (·.value) =
      .ok [⟨"pkg@1/index.d.ts", "declare module 'pkg@1' { }"⟩] := by decide +kernel
  rw [generate_value_of_general (by decide) (by decide), renamed] at same
  refine ⟨(asked _ .empty rfl).1 falls, _, same, ?_⟩
  exact (given _ same).2 (by decide +kernel) (List.cons_ne_nil _ _)

/-- An escape in the version is read in the clause of the types, too. -/
theorem types_lose_escaped_version :
    FallsBack typesOfPkg ⟨"", "pkg", "1\\n2"⟩ ∧
    (documents typesOfPkg ⟨"", "pkg", "1\\n2"⟩).run.value =
      .ok [⟨"pkg@1\\n2/index.d.ts", "declare module 'pkg@1\n2' { }"⟩] ∧
    ¬ Names ⟨"", "pkg", "1\\n2"⟩ "declare module 'pkg@1\n2' { }" := by
  have falls : FallsBack typesOfPkg ⟨"", "pkg", "1\\n2"⟩ := isFollowed_iff.mp (by decide +kernel)
  have told : reply typesOfPkg ⟨"", "pkg", "1\\n2"⟩ (Package.typesPackage "pkg") =
      .ok ⟨"", [declaringPkg]⟩ := rfl
  have same := documents_of_fallsBack (by decide) falls told
  have renamed : (fromEntry ⟨"", "pkg", "1\\n2"⟩ ⟨"", [declaringPkg]⟩).map (·.value) =
      .ok [⟨"pkg@1\\n2/index.d.ts", "declare module 'pkg@1\n2' { }"⟩] := by decide +kernel
  rw [generate_value_of_general (by decide) (by decide), renamed] at same
  refine ⟨falls, same, ?_⟩
  unfold Names
  decide +kernel

end AmbientTypes.Resolution
