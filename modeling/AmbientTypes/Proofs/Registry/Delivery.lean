import AmbientTypes.Proofs.Archive.Unpack
import AmbientTypes.Proofs.Except
import AmbientTypes.Registry.Sources

namespace AmbientTypes

namespace Network

variable {network : Network} {client : Client} {address : String} {u : Url} {r : Response}

theorem send_value (web : protocolFault? u = none) (replied : network u.text = .response r) :
    (send network u).run.value = .ok r := by
  rw [send, web]
  dsimp only
  rw [Journaled.run_bind_value, replied]
  rfl

theorem follow_value (web : protocolFault? u = none) (replied : network u.text = .response r)
    (final : Response.redirect? r = none) (redirects : Nat) :
    (follow network redirects u).run.value = .ok r := by
  have first : ∃ later : Response → ExceptT Obstacle Journaled Response,
      follow network redirects u = send network u >>= later ∧ (later r).run.value = .ok r := by
    cases redirects with
    | zero => exact ⟨_, by delta follow; rfl, by dsimp only; rw [final]; rfl⟩
    | succ redirects => exact ⟨_, by delta follow; rfl, by dsimp only; rw [final]; rfl⟩
  obtain ⟨later, same, ends⟩ := first
  rw [same, Journaled.run_bind_value, send_value web replied]
  exact ends

/-- A successful response that sends the client nowhere gives its body. -/
theorem Client.bytes_value (read : Url.parse address = .ok u) (web : protocolFault? u = none)
    (replied : client.network u.text = .response r) (final : Response.redirect? r = none)
    (success : isSuccess r.status = true) : (client.bytes address).run.value = .ok r.body := by
  have response : (client.response address).run.value = .ok r := by
    rw [Client.response, read]
    exact follow_value web replied final maxRedirects
  have noted : ∀ entry : Journaled Unit,
      (liftM entry : ExceptT Fault Journaled Unit).run.value = .ok () := fun _ => rfl
  rw [Client.bytes, Journaled.run_bind_value, noted]
  dsimp only
  rw [Journaled.run_bind_value, Journaled.adapt_value, response, mapError_ok]
  dsimp only
  rw [if_pos success]
  rfl

end Network

namespace Registry

variable {client : Network.Client} {name version asked : String} {content : List UInt8}
  {files : List ArchiveFile} {address : String}

theorem Kind.ofTag_eq_entryless_iff {tag : String} :
    ofTag tag = entryless ↔ Text.lower tag = Declaration.entrylessRegistry := by
  unfold ofTag
  split <;> simp_all [Kind.name]

/-- The declarations at an address are those of the archive there. -/
theorem declarationsAt_value (given : (client.bytes address).run.value = .ok content)
    (unpacked : Archive.unpack content = .ok files) :
    (declarationsAt client address).run.value = .ok (ArchiveFile.declarations files) := by
  rw [declarationsAt, Journaled.run_bind_value, Journaled.adapt_value, given, mapError_ok]
  dsimp only
  rw [unpacked]
  rfl

namespace Entryless

variable {bases : Bases}

/-- The version that is fetched for a package: the latest one in place of an empty one. -/
def askedVersion (client : Network.Client) (bases : Bases) (name version : String) :
    ExceptT Fault Journaled String :=
  if version.isEmpty then latestVersion client bases.documents name else pure version

theorem source_eq (named : name ≠ "") :
    source client bases name version = do
      let asked ← askedVersion client bases name version
      let files ← declarationsAt client (archiveAddress bases.archives name asked)
      logResolved .entryless name asked files
      return ⟨"", files⟩ := by
  unfold source askedVersion
  rw [if_neg (by simpa using named)]
  dsimp only
  split <;> rfl

theorem source_value (named : name ≠ "")
    (fetched : (askedVersion client bases name version).run.value = .ok asked)
    (given : (client.bytes (archiveAddress bases.archives name asked)).run.value = .ok content)
    (unpacked : Archive.unpack content = .ok files) :
    (source client bases name version).run.value = .ok ⟨"", ArchiveFile.declarations files⟩ := by
  rw [source_eq named, Journaled.run_bind_value, fetched]
  dsimp only
  rw [Journaled.run_bind_value, declarationsAt_value given unpacked]
  rfl

/-- No reply of this registry names an entry. -/
theorem entry_eq_of_source {types : Declarations} (named : name ≠ "")
    (told : (source client bases name version).run.value = .ok types) : types.entry = "" := by
  rw [source_eq named, Journaled.run_bind_value] at told
  split at told
  · rw [Journaled.run_bind_value] at told
    split at told
    · exact Except.ok.inj told ▸ rfl
    · cases told
  · cases told

end Entryless

end Registry

end AmbientTypes
