import AmbientTypes.Proofs.Package.Specifier
import AmbientTypes.Proofs.Url.Below
import AmbientTypes.Registry.Sources

namespace AmbientTypes

/-- The address of the first request that a computation makes. -/
def firstRequest {ε α : Type} (x : ExceptT ε Journaled α) : Option String :=
  (x.run.events.filterMap Event.request?).head?

/-- A computation that first asks at an address, or fails without a request. -/
structure AsksFirst {ε α : Type} (x : ExceptT ε Journaled α) (address : Option String) : Prop where
  first : firstRequest x = address
  failed : address = none → ∃ e, x.run.value = .error e

namespace AsksFirst

variable {ε δ α β : Type} {x : ExceptT ε Journaled α} {address : Option String}

theorem run_bind_events (x : ExceptT ε Journaled α) (f : α → ExceptT ε Journaled β) :
    (x >>= f).run.events = x.run.events ++ match x.run.value with
      | .ok a => (f a).run.events
      | .error _ => [] := by
  rw [ExceptT.run_bind]
  have joined : ∀ g : Except ε α → Journaled (Except ε β),
      (x.run >>= g).events = x.run.events ++ (g x.run.value).events := fun _ => rfl
  rw [joined]
  cases x.run.value <;> rfl

theorem adapt_events (f : ε → δ) (x : ExceptT ε Journaled α) :
    (x.adapt f).run.events = x.run.events := List.append_nil x.run.events

theorem throw (e : ε) : AsksFirst (MonadExcept.throw e : ExceptT ε Journaled α) none :=
  ⟨rfl, fun _ => ⟨e, rfl⟩⟩

theorem bind (asks : AsksFirst x address) (f : α → ExceptT ε Journaled β) :
    AsksFirst (x >>= f) address := by
  obtain ⟨first, failed⟩ := asks
  unfold firstRequest at first
  constructor
  · rw [firstRequest, run_bind_events, List.filterMap_append, List.head?_append, first]
    cases address with
    | some a => rfl
    | none =>
      obtain ⟨e, value⟩ := failed rfl
      rw [value]
      rfl
  · intro none
    obtain ⟨e, value⟩ := failed none
    refine ⟨e, ?_⟩
    rw [Journaled.run_bind_value, value]

theorem adapt (asks : AsksFirst x address) (f : ε → δ) : AsksFirst (x.adapt f) address := by
  refine ⟨?_, ?_⟩
  · rw [firstRequest, adapt_events]
    exact asks.first
  intro none
  obtain ⟨e, value⟩ := asks.failed none
  refine ⟨f e, ?_⟩
  rw [Journaled.adapt_value, value]
  rfl

/-- Entries of the log are no requests. -/
theorem afterLog (asks : AsksFirst x address) (severity : Logging.Severity) (event : String)
    (fields : List (String × Json)) :
    AsksFirst (ExceptT.lift (Journaled.log severity event fields) >>= fun _ => x) address := by
  obtain ⟨first, failed⟩ := asks
  refine ⟨first, ?_⟩
  intro none
  obtain ⟨e, value⟩ := failed none
  refine ⟨e, ?_⟩
  rw [Journaled.run_bind_value]
  exact value

end AsksFirst

namespace Network

variable {network : Network} {client : Client} {address : String} {u : Url}

theorem send_asksFirst (network : Network) (web : protocolFault? u = none) :
    AsksFirst (send network u) (some u.text) := by
  unfold send
  rw [web]
  refine ⟨?_, fun none => by cases none⟩
  dsimp only
  cases network u.text <;> rfl

theorem follow_asksFirst (network : Network) (redirects : Nat) (web : protocolFault? u = none) :
    AsksFirst (follow network redirects u) (some u.text) := by
  have first : ∃ later, follow network redirects u = send network u >>= later := by
    cases redirects with
    | zero => exact ⟨_, by delta follow; rfl⟩
    | succ redirects => exact ⟨_, by delta follow; rfl⟩
  obtain ⟨later, same⟩ := first
  rw [same]
  exact (send_asksFirst network web).bind later

/-- The request that an address leads to, if it can be read. -/
def requested? (address : String) : Option String :=
  match Url.parse address with
  | .error _ => none
  | .ok u => some u.text

namespace Client

theorem response_asksFirst (client : Client)
    (web : ∀ u, Url.parse address = .ok u → protocolFault? u = none) :
    AsksFirst (client.response address) (requested? address) := by
  unfold response requested?
  cases read : Url.parse address with
  | error e => exact .throw _
  | ok u => exact follow_asksFirst client.network maxRedirects (web u read)

theorem json_asksFirst (client : Client)
    (web : ∀ u, Url.parse address = .ok u → protocolFault? u = none) :
    AsksFirst (client.json address) (requested? address) := by
  unfold json bytes
  exact ((((client.response_asksFirst web).adapt _).bind _).afterLog _ _ _).bind _

end Client

end Network

namespace Url

variable {cs : List Char} {c : Char} {u : Url}

theorem toNat_lt_of_isAlphanum (h : c.isAlphanum = true) : c.toNat < 128 := by
  delta Char.isAlphanum Char.isAlpha Char.isUpper Char.isLower Char.isDigit at h
  simp only [Bool.or_eq_true, Bool.and_eq_true, decide_eq_true_eq, UInt32.le_iff_toNat_le,
    ge_iff_le] at h
  have upper : 'Z'.val.toNat = 90 := rfl
  have lower : 'z'.val.toNat = 122 := rfl
  have digit : '9'.val.toNat = 57 := rfl
  have same : c.toNat = c.val.toNat := rfl
  omega

theorem isPathChar_of_isUnreserved (h : Percent.isUnreserved c = true) :
    isPathChar c = true ∧ c ≠ '/' := by
  have low : c.toNat < 128 := by
    rcases Bool.or_eq_true_iff.mp h with alphanumeric | mark
    · exact toNat_lt_of_isAlphanum alphanumeric
    · simp only [List.contains_eq_mem, decide_eq_true_eq, List.mem_cons, List.not_mem_nil,
        or_false] at mark
      rcases mark with rfl | rfl | rfl | rfl <;> decide
  have all : ∀ n : Fin 128, Percent.isUnreserved (Char.ofNat n) = true →
      isPathChar (Char.ofNat n) = true ∧ Char.ofNat n ≠ '/' := by decide
  have own := all ⟨c.toNat, low⟩
  rw [Char.ofNat_toNat] at own
  exact own h

/-- An encoded text is one segment, unless the text is one or two dots. -/
theorem isSegment_encode (one : cs ≠ ['.']) (two : cs ≠ ['.', '.']) :
    IsSegment (Percent.encode Percent.isUnreserved cs) where
  chars c mem := by
    rcases Percent.mem_encode_isUnreserved mem with rfl | plain
    · decide
    · exact isPathChar_of_isUnreserved plain
  one same := one (Percent.encode_inj (by decide) (same.trans (by decide)))
  two same := two (Percent.encode_inj (by decide) (same.trans (by decide)))

end Url

namespace Registry

open Url

/-- An address of the web without query and fragment, and what is read of it without the slashes at
its end. -/
structure IsWebBase (base : String) (u : Url) : Prop where
  read : Url.parse (Text.stripSlashes base) = .ok u
  scheme : u.scheme = ['h', 't', 't', 'p'] ∨ u.scheme = ['h', 't', 't', 'p', 's']
  host : u.host ≠ []
  query : u.query = none
  fragment : u.fragment = none

variable {base name version : String} {u : Url}

theorem IsWebBase.isBase (web : IsWebBase base u) : u.IsBase := by
  refine ⟨?_, web.host, web.query, web.fragment⟩
  rcases web.scheme with http | https
  · simp [http]
  · simp [https]

theorem IsWebBase.protocolFault?_eq_none (web : IsWebBase base u) (first second : List Char) :
    Network.protocolFault? ((u.below first).below second) = none := by
  have absolute : ((u.below first).below second).isAbsolute = true := by
    have scheme := web.isBase.scheme
    have host := web.host
    simp [isAbsolute, below, scheme, host]
  unfold Network.protocolFault?
  rw [absolute]
  rcases web.scheme with http | https
  · simp [below, http]
  · simp [below, https]

theorem source_asksFirst (client : Network.Client) (base version : String) (named : name ≠ "")
    (web : ∀ u, Url.parse (General.metadataAddress base name version) = .ok u →
      Network.protocolFault? u = none) :
    AsksFirst (General.source client base name version)
      (Network.requested? (General.metadataAddress base name version)) := by
  have full : name.isEmpty = false := by simpa using named
  unfold General.source General.metadata
  rw [full]
  exact (((client.json_asksFirst web).adapt _).bind _).bind _

/-- What is read of the address of metadata, if it is short enough. -/
theorem parse_metadataAddress (web : IsWebBase base u) (named : name ≠ "." ∧ name ≠ "..")
    (versioned : version ≠ "." ∧ version ≠ "..")
    (short : (General.metadataAddress base name version).toList.length ≤ maxLength) :
    Url.parse (General.metadataAddress base name version) =
      .ok ((u.below (Percent.segment name).toList).below
        (Percent.segment (General.versionTag version)).toList) := by
  have isSegment : ∀ s : String, s ≠ "." → s ≠ ".." → IsSegment (Percent.segment s).toList := by
    intro s one two
    rw [Percent.segment, String.toList_ofList]
    exact isSegment_encode (fun same => one (String.toList_inj.mp same))
      (fun same => two (String.toList_inj.mp same))
  have tagged : General.versionTag version ≠ "." ∧ General.versionTag version ≠ ".." := by
    unfold General.versionTag
    split
    · decide
    · exact versioned
  have first := isSegment name named.1 named.2
  have second := isSegment (General.versionTag version) tagged.1 tagged.2
  have base' := web.isBase
  rw [General.metadataAddress] at short ⊢
  have shorter : (Text.stripSlashes base ++ "/" ++
      String.ofList (Percent.segment name).toList).toList.length ≤ maxLength := by
    simp only [String.toList_append, List.length_append, String.ofList_toList] at short ⊢
    omega
  have below := parse_append web.read base' first shorter
  rw [String.ofList_toList] at below
  have whole := parse_append below (base'.below _) second
  rw [String.ofList_toList] at whole
  exact whole short

theorem requested?_metadataAddress (web : IsWebBase base u) (named : name ≠ "." ∧ name ≠ "..")
    (versioned : version ≠ "." ∧ version ≠ "..") :
    Network.requested? (General.metadataAddress base name version) =
      if (General.metadataAddress base name version).toList.length ≤ maxLength then
        some (u.text ++ "/" ++ Percent.segment name ++ "/" ++
          Percent.segment (General.versionTag version))
      else none := by
  by_cases fits : (General.metadataAddress base name version).toList.length ≤ maxLength
  · rw [if_pos fits, Network.requested?, parse_metadataAddress web named versioned fits]
    dsimp only
    rw [text_below (web.isBase.below _), text_below web.isBase, String.ofList_toList,
      String.ofList_toList]
  · rw [if_neg fits, Network.requested?]
    cases read : Url.parse (General.metadataAddress base name version) with
    | error e => rfl
    | ok v => exact absurd (parse_eq_ok_iff.mp read).1 fits

/-- The general registry is first asked at its own address with two segments behind it, which stand
for the name and the version of what has been imported, or not at all where this address is too
long. Names and versions of one or two dots are left out: such segments are taken out of an
address, together with the segment before two dots. -/
theorem imports_are_asked_for_below_the_base (client : Network.Client) (web : IsWebBase base u)
    {specifier : String} {d : Dependency} (read : Dependency.ofSpecifier? specifier = some d)
    (general : Kind.ofTag d.registry = .general) (named : d.name ≠ "." ∧ d.name ≠ "..")
    (versioned : d.version ≠ "." ∧ d.version ≠ "..") :
    ∃ first second : String, '/' ∉ first.toList ∧ '/' ∉ second.toList ∧
      Percent.decode first.toList = d.name.toList ∧
      Percent.decode second.toList =
        (if d.version = "" then "latest" else d.version).toList ∧
      firstRequest (sources client base (Kind.ofTag d.registry) d.name d.version) =
        if (General.metadataAddress base d.name d.version).toList.length ≤ maxLength then
          some (u.text ++ "/" ++ first ++ "/" ++ second)
        else none := by
  have decoded : ∀ s : String, '/' ∉ (Percent.segment s).toList ∧
      Percent.decode (Percent.segment s).toList = s.toList := by
    intro s
    rw [Percent.segment, String.toList_ofList]
    refine ⟨?_, Percent.decode_encode (by decide) s.toList⟩
    intro mem
    rcases Percent.mem_encode_isUnreserved mem with sign | plain
    · cases sign
    · exact (isPathChar_of_isUnreserved plain).2 rfl
  have tag : General.versionTag d.version =
      if d.version = "" then "latest" else d.version := by
    simp [General.versionTag, latest]
  refine ⟨Percent.segment d.name, Percent.segment (General.versionTag d.version),
    (decoded _).1, (decoded _).1, (decoded _).2, ?_, ?_⟩
  · rw [(decoded _).2, tag]
  · have asked : ∀ v, Url.parse (General.metadataAddress base d.name d.version) = .ok v →
        Network.protocolFault? v = none := by
      intro v whole
      have short := (parse_eq_ok_iff.mp whole).1
      rw [parse_metadataAddress web named versioned short] at whole
      obtain rfl := Except.ok.inj whole
      exact web.protocolFault?_eq_none _ _
    have full := Dependency.name_ne_empty_of_ofSpecifier? read
    rw [general, ← requested?_metadataAddress web named versioned]
    exact (source_asksFirst client base d.version full asked).first

/-- A network that never replies. -/
def silentClient : Network.Client := ⟨fun _ => .timeout, .int 1⟩

def defaultUrl : Url where
  scheme := ['h', 't', 't', 'p', 's']
  user := []
  host := "registry.npmjs.org".toList
  portNumber := none
  path := []
  query := none
  fragment := none

theorem isWebBase_default : IsWebBase General.defaultBase defaultUrl where
  read := by decide +kernel
  scheme := .inr rfl
  host := by decide
  query := rfl
  fragment := rfl

theorem scoped_import_is_asked_for_below_the_base :
    Dependency.ofSpecifier? "@types/node@20" = some ⟨"", "@types/node", "20"⟩ ∧
      ∃ first second : String, '/' ∉ first.toList ∧ '/' ∉ second.toList ∧
        Percent.decode first.toList = "@types/node".toList ∧
        Percent.decode second.toList = "20".toList ∧
        firstRequest (sources silentClient General.defaultBase (Kind.ofTag "") "@types/node" "20") =
          some (defaultUrl.text ++ "/" ++ first ++ "/" ++ second) := by
  have read : Dependency.ofSpecifier? "@types/node@20" = some ⟨"", "@types/node", "20"⟩ := by
    decide +kernel
  have asked := imports_are_asked_for_below_the_base silentClient isWebBase_default read
    (by decide +kernel) (by decide) (by decide)
  have short : (General.metadataAddress General.defaultBase "@types/node" "20").toList.length ≤
      maxLength := by decide +kernel
  obtain ⟨first, second, one, one', name, version, request⟩ := asked
  have tag : ("20" : String) ≠ "" := by decide
  rw [if_neg tag] at version
  rw [if_pos short] at request
  exact ⟨read, first, second, one, one', name, version, request⟩

/-- A name of two dots is asked for at the address of another package. -/
theorem dots_leave_their_segment :
    Dependency.ofSpecifier? "npm:../x" = some ⟨"npm", "..", ""⟩ ∧
      firstRequest (sources silentClient General.defaultBase (Kind.ofTag "npm") ".." "") =
        some "https://registry.npmjs.org/latest" := by
  refine ⟨by decide +kernel, ?_⟩
  have read : Url.parse (General.metadataAddress General.defaultBase ".." "") =
      .ok { defaultUrl with path := "/latest".toList } := by decide +kernel
  have general : Kind.ofTag "npm" = .general := by decide +kernel
  have web : ∀ u, Url.parse (General.metadataAddress General.defaultBase ".." "") = .ok u →
      Network.protocolFault? u = none := by
    intro u read'
    obtain rfl := Except.ok.inj (read.symm.trans read')
    decide +kernel
  have requested : Network.requested? (General.metadataAddress General.defaultBase ".." "") =
      some "https://registry.npmjs.org/latest" := by
    rw [Network.requested?, read]
    decide +kernel
  rw [general, ← requested]
  exact (source_asksFirst silentClient General.defaultBase "" (by decide) web).first

end Registry

end AmbientTypes
