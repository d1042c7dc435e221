import AmbientTypes.Proofs.Declaration.Document
import AmbientTypes.Proofs.Registry.Delivery
import AmbientTypes.Proofs.Resolution.Outcome

namespace AmbientTypes.Resolution

open Registry Declaration

variable {sources : Sources} {d : Dependency} {types : Declarations}

/-- No declarations of others take the place of those from the entryless registry. -/
theorem declarations_of_entryless (entryless : Kind.ofTag d.registry = .entryless) :
    declarations sources d = sources .entryless d.name d.version := by
  have alone : ∀ types, needsFallback d types = false := by
    intro types
    rw [needsFallback, hasFallback, entryless]
    simp
  rw [declarations, entryless]
  simp only [alone]
  exact bind_pure _

theorem generate_value_of_entryless (named : d.name ≠ "") (tag : d.registry = entrylessRegistry)
    (types : Declarations) :
    (generate d types).run.value = .ok ((types.files.filter fun f => !isBlankText f.text).map fun f =>
      ⟨d.documentPath f.path, wrapModule d.moduleKey f.text⟩) := by
  obtain ⟨events, made⟩ := documents_of_entryless named tag types
  rw [generate_value, made]
  split
  · next none => rw [List.isEmpty_iff.mp none]; rfl
  · rfl

theorem generate_value_of_general (named : d.name ≠ "") (tag : d.registry ≠ entrylessRegistry)
    (types : Declarations) :
    (generate d types).run.value =
      ((fromEntry d types).map (·.value)).mapError .declaration := by
  rw [generate_value]
  split
  · next none =>
    have unchosen : entryFile? d types.entry types.files = Option.none := by
      rw [List.isEmpty_iff.mp none]
      rfl
    rw [fromEntry, unchosen]
    rfl
  · next full =>
    rw [Declaration.documents, if_neg (by simpa using named), if_neg full, if_neg tag]
    cases fromEntry d types <;> rfl

/-- The registry from which a package is fetched is the one by whose rules its documents are made,
provided that a tag which means the entryless registry is written in small letters. From that
registry nothing but its own archive is taken, no entry is named, and each declaration file of the
archive that is not blank becomes a module. For any other tag, the documents are those of the entry
that is chosen among the fetched files. -/
theorem one_protocol_for_each_tag (client : Network.Client) (base : String) (named : d.name ≠ "")
    (small : Text.lower d.registry = "jsr" → d.registry = "jsr") :
    let sources := Registry.sources client base
    (Kind.ofTag d.registry = .entryless →
      declarations sources d = Entryless.source client Entryless.defaultBases d.name d.version ∧
      (∀ types, (declarations sources d).run.value = .ok types → types.entry = "") ∧
      ∀ version content files,
        (Entryless.askedVersion client Entryless.defaultBases d.name d.version).run.value =
          .ok version →
        (client.bytes (Entryless.archiveAddress Entryless.defaultBases.archives d.name
          version)).run.value = .ok content →
        Archive.unpack content = .ok files →
        (documents sources d).run.value = .ok (((ArchiveFile.declarations files).filter fun f =>
          !isBlankText f.text).map fun f => ⟨d.documentPath f.path, wrapModule d.moduleKey f.text⟩)) ∧
    (Kind.ofTag d.registry = .general →
      ∀ types, (declarations sources d).run.value = .ok types →
        (documents sources d).run.value =
          ((fromEntry d types).map (·.value)).mapError .declaration) := by
  intro sources
  have fetched : ∀ {types}, (declarations sources d).run.value = .ok types →
      (documents sources d).run.value = (generate d types).run.value := by
    intro types told
    rw [documents_value, if_neg named, told]
  refine ⟨fun entryless => ?_, fun general types told => ?_⟩
  · have alone : declarations sources d =
        Entryless.source client Entryless.defaultBases d.name d.version :=
      declarations_of_entryless entryless
    have tag : d.registry = entrylessRegistry := small (Kind.ofTag_eq_entryless_iff.mp entryless)
    refine ⟨alone, fun types told => ?_, fun version content files asked given unpacked => ?_⟩
    · exact Entryless.entry_eq_of_source named (alone ▸ told)
    · have told := Entryless.source_value named asked given unpacked
      rw [fetched (alone ▸ told), generate_value_of_entryless named tag]
  · have tag : d.registry ≠ entrylessRegistry := by
      intro same
      rw [same] at general
      exact absurd general (by decide +kernel)
    rw [fetched told, generate_value_of_general named tag]

/-- A network that delivers one content wherever it is asked. -/
def delivering (content : List UInt8) : Network.Client :=
  ⟨fun _ => .response ⟨200, none, content⟩, .int 30⟩

/-- An archive of one declaration file, which is no entry by itself. -/
def packedModule : List UInt8 :=
  (Archive.Container.Wrapper.zlib ⟨0x78, 0x9C, by decide, by decide, by decide, by decide⟩).bytes
    (Archive.Inflate.Blocks.bytewise (Archive.Tar.stream [Archive.Tar.Unsummed.item
      ⟨⟨"package/mod.d.ts", by decide, by decide⟩, Archive.plainAttributes, .file [120, 59],
        ⟨2, 2, List.replicate 10 32, by decide, by simp, rfl⟩, rfl⟩]))

theorem unpack_packedModule : Archive.unpack packedModule = .ok [⟨"package/mod.d.ts", [120, 59]⟩] :=
  Archive.unpack_bytes (Archive.Tar.files_stream _) _ _

/-- Where the archive of the package `@a/b` is. -/
def scopedAddress : String :=
  Entryless.archiveAddress Entryless.defaultBases.archives "@a/b" "1.0.0"

theorem bytes_delivering (content : List UInt8) :
    ((delivering content).bytes scopedAddress).run.value = .ok content := by
  have reads : (Url.parse scopedAddress).isOk = true := by decide +kernel
  have webs : ((Url.parse scopedAddress).toOption.all fun u =>
      (Network.protocolFault? u).isNone) = true := by decide +kernel
  cases read : Url.parse scopedAddress with
  | error e =>
    rw [read] at reads
    cases reads
  | ok u =>
    rw [read] at webs
    have reply : (delivering content).network u.text = .response ⟨200, none, content⟩ := rfl
    exact Network.Client.bytes_value read (Option.isNone_iff_eq_none.mp webs) reply rfl rfl

theorem small_tag_is_wrapped :
    (documents (Registry.sources (delivering packedModule) General.defaultBase)
      ⟨"jsr", "@a/b", "1.0.0"⟩).run.value =
      .ok [⟨"jsr/@a/b@1.0.0/mod.d.ts", "declare module 'jsr:@a/b@1.0.0' \x7b\nx;\n\x7d"⟩] := by
  have wrapped := (one_protocol_for_each_tag (d := ⟨"jsr", "@a/b", "1.0.0"⟩)
    (delivering packedModule) General.defaultBase (by decide) (fun _ => rfl)).1 (by decide +kernel)
  rw [wrapped.2.2 "1.0.0" packedModule _ rfl (bytes_delivering packedModule) unpack_packedModule]
  exact congrArg Except.ok (by decide +kernel)

/-- In capitals, the same package is fetched from the same registry, and its file is lost. -/
theorem capital_tag_is_not_wrapped :
    Kind.ofTag "JSR" = .entryless ∧
    Archive.unpack packedModule = .ok [⟨"package/mod.d.ts", [120, 59]⟩] ∧
    (documents (Registry.sources (delivering packedModule) General.defaultBase)
      ⟨"JSR", "@a/b", "1.0.0"⟩).run.value = .ok [] := by
  have entryless : Kind.ofTag "JSR" = .entryless := by decide +kernel
  have told : (Entryless.source (delivering packedModule) Entryless.defaultBases "@a/b"
      "1.0.0").run.value = .ok ⟨"", [⟨"package/mod.d.ts", [120, 59]⟩]⟩ :=
    Entryless.source_value (by decide) rfl (bytes_delivering packedModule) unpack_packedModule
  have alone : declarations (Registry.sources (delivering packedModule) General.defaultBase)
      ⟨"JSR", "@a/b", "1.0.0"⟩ =
        Entryless.source (delivering packedModule) Entryless.defaultBases "@a/b" "1.0.0" :=
    declarations_of_entryless entryless
  have none : entryFile? ⟨"JSR", "@a/b", "1.0.0"⟩ "" [⟨"package/mod.d.ts", [120, 59]⟩] = none := by
    decide +kernel
  refine ⟨entryless, unpack_packedModule, ?_⟩
  rw [documents_value, if_neg (by decide), alone, told]
  dsimp only
  rw [generate_value_of_general (by decide) (by decide), fromEntry, none]
  rfl

end AmbientTypes.Resolution
