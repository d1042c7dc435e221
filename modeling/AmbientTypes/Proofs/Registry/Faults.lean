import AmbientTypes.Registry.Sources

namespace AmbientTypes.Registry

variable {α β ε : Type}

/-- A computation that does not find fault with a name. -/
def FaultsElsewhere (x : ExceptT Fault Journaled α) : Prop := x.run.value ≠ .error .emptyName

namespace FaultsElsewhere

theorem pure (a : α) : FaultsElsewhere (Pure.pure a) := by
  intro bad
  cases bad

theorem throw {e : Fault} (other : e ≠ .emptyName) :
    FaultsElsewhere (MonadExcept.throw e : ExceptT Fault Journaled α) := by
  intro bad
  exact other (Except.error.inj bad)

theorem lift (x : Journaled α) : FaultsElsewhere (ExceptT.lift x) := by
  intro bad
  cases bad

theorem bind {x : ExceptT Fault Journaled α} {f : α → ExceptT Fault Journaled β}
    (first : FaultsElsewhere x) (later : ∀ a, FaultsElsewhere (f a)) :
    FaultsElsewhere (x >>= f) := by
  intro bad
  rw [Journaled.run_bind_value] at bad
  cases value : x.run.value with
  | ok a =>
    rw [value] at bad
    exact later a bad
  | error e =>
    rw [value] at bad
    obtain rfl : e = .emptyName := Except.error.inj bad
    exact first value

theorem adapt {f : ε → Fault} (other : ∀ e, f e ≠ .emptyName) (x : ExceptT ε Journaled α) :
    FaultsElsewhere (x.adapt f) := by
  intro bad
  rw [Journaled.adapt_value] at bad
  cases value : x.run.value with
  | ok a =>
    rw [value] at bad
    cases bad
  | error e =>
    rw [value] at bad
    exact other e (Except.error.inj bad)

end FaultsElsewhere

variable {client : Network.Client} {base name version : String}

theorem declarationsAt_faultsElsewhere (client : Network.Client) (address : String) :
    FaultsElsewhere (declarationsAt client address) := by
  refine .bind (.adapt (by simp) _) ?_
  intro content
  cases Archive.unpack content with
  | ok files => exact .pure _
  | error e => exact .throw (by simp)

theorem General.metadata_faultsElsewhere (client : Network.Client) (base name version : String) :
    FaultsElsewhere (General.metadata client base name version) := by
  refine .bind (.adapt (by simp) _) ?_
  intro v
  cases Package.Metadata.ofJson v with
  | ok m => exact .pure _
  | error e => exact .throw (by simp)

theorem General.source_faultsElsewhere (named : name ≠ "") :
    FaultsElsewhere (General.source client base name version) := by
  unfold General.source
  rw [if_neg (by simpa using named)]
  refine .bind (General.metadata_faultsElsewhere client base name version) fun m => ?_
  refine .bind (declarationsAt_faultsElsewhere client m.tarball) fun files => ?_
  exact .bind (.lift _) fun _ => .pure _

theorem Entryless.latestVersion_faultsElsewhere (client : Network.Client)
    (documents name : String) :
    FaultsElsewhere (Entryless.latestVersion client documents name) := by
  refine .bind (.adapt (by simp) _) ?_
  intro v
  cases Entryless.latestIn? v with
  | none => exact .throw (by simp)
  | some version => exact .pure _

theorem Entryless.source_faultsElsewhere {bases : Entryless.Bases} (named : name ≠ "") :
    FaultsElsewhere (Entryless.source client bases name version) := by
  unfold Entryless.source
  rw [if_neg (by simpa using named)]
  have rest : ∀ version, FaultsElsewhere (α := Declarations) (do
      let files ← declarationsAt client (Entryless.archiveAddress bases.archives name version)
      logResolved .entryless name version files
      return ⟨"", files⟩) := by
    intro version
    refine .bind (declarationsAt_faultsElsewhere client _) fun files => ?_
    exact .bind (.lift _) fun _ => .pure _
  dsimp only
  split
  · exact .bind (Entryless.latestVersion_faultsElsewhere client bases.documents name) rest
  · exact .bind (.pure version) rest

/-- Who is told that a name is empty has asked with an empty name. -/
theorem eq_empty_of_sources {kind : Kind}
    (told : (sources client base kind name version).run.value = .error .emptyName) : name = "" := by
  apply Classical.byContradiction
  intro named
  cases kind with
  | general => exact General.source_faultsElsewhere named told
  | entryless => exact Entryless.source_faultsElsewhere named told

end AmbientTypes.Registry
