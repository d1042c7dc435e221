import AmbientTypes.Proofs.Package.Specifier
import AmbientTypes.Proofs.Registry.Faults
import AmbientTypes.Proofs.Resolution.Answer
import AmbientTypes.Settings.Basic

namespace AmbientTypes.Resolution

/-- The world of the registries: each reply is that of some network, and a load may crash in any way
but by the fault of a caller. -/
def World.ofClients (base : String) : World where
  replies kind name version reply :=
    ∃ client, (Registry.sources client base kind name version).run.value = reply
  crashes _ e := e.isContract = false
  eq_empty_of_replies := by
    intro kind name version h
    obtain ⟨client, told⟩ := h
    exact Registry.eq_empty_of_sources told
  isContract_of_crashes failure := failure

/-- Something that is still to be loaded has no name. -/
def HasNameless (c : Cache) (ds : List Dependency) : Prop :=
  ∃ d ∈ ds, ds.find? (·.key = d.key) = some d ∧ c.holds d.key = false ∧ d.name = ""

/-- A call raises for a package without a name, as a fault of validation, and for nothing else. -/
def Contained (c : Cache) (ds : List Dependency) (control : Control) : Prop :=
  (HasNameless c ds ∧ ∃ e, control = .raised e ∧ e.kind = "ValidationError") ∨
    (¬ HasNameless c ds ∧ ∃ found, control = .returned found)

/-- A cache that has come to know all keys of some dependencies. -/
structure Cache.Learns (c : Cache) (ds : List Dependency) (c' : Cache) : Prop
    extends c.Extends ds c' where
  all : (∀ key ∈ c.inFlight, key ∈ c.resolved) →
    ∀ key, key ∈ c'.resolved ↔ key ∈ c.resolved ∨ ∃ d ∈ ds, d.key = key
  quiet : c.inFlight = [] → c'.inFlight = []

variable {w : World} {limit : Nat} {c c' : Cache} {ds : List Dependency} {actions : List Action}
  {call : Call} {d : Dependency} {trace : Trace} {s : State} {outcome : Outcome} {base : String}

theorem World.total_ofClients (base : String) : (World.ofClients base).Total :=
  fun _ _ _ => ⟨_, ⟨fun _ => .timeout, .int 30⟩, rfl⟩

theorem respectful_sources (client : Network.Client) (base : String) :
    Respectful (Registry.sources client base) :=
  fun _ _ _ told => Registry.eq_empty_of_sources told

theorem mem_hasNameless_iff : HasNameless c ds ↔ ∃ d ∈ pending c ds, d.name = "" := by
  constructor
  · intro h
    obtain ⟨d, -, first, free, nameless⟩ := h
    exact ⟨d, mem_pending_iff.mpr ⟨free, first⟩, nameless⟩
  · intro h
    obtain ⟨d, chosen, nameless⟩ := h
    obtain ⟨free, first⟩ := mem_pending_iff.mp chosen
    exact ⟨d, mem_of_mem_pending chosen, first, free, nameless⟩

theorem Cache.Extends.learns (grown : c.Extends ds c') : c.Learns ds c' := by
  refine ⟨grown, ?_, ?_⟩
  · intro sub key
    rw [grown.resolved key]
    constructor
    · exact Or.imp id And.right
    · intro h
      rcases h with known | named
      · exact .inl known
      · cases held : c.holds key with
        | false => exact .inr ⟨rfl, named⟩
        | true => exact .inl ((Cache.holds_iff.mp held).elim id (sub key))
  · intro none
    rw [List.eq_nil_iff_forall_not_mem]
    intro key mem
    rw [grown.inFlight key, none] at mem
    cases mem

theorem History.eq_error_of_nameless (history : History w d (.ended outcome) actions)
    (nameless : d.name = "") :
    (.refused d ∈ actions ∧ outcome = .ok []) ∨ outcome = .error (.declaration .emptyName) := by
  cases history with
  | refused => exact .inl ⟨List.mem_cons_self, rfl⟩
  | invalid => exact .inr rfl
  | ended past finished =>
    have running := finished.isRunning
    cases past with
    | asked named => exact absurd nameless named
    | askedFallback named => exact absurd nameless named
    | _ => cases running

namespace Tracked

theorem nameless_of_raised (tracked : Tracked w limit c ds actions call) (positive : 1 ≤ limit)
    {e : Fault} (raised : call.control = .raised e) :
    HasNameless c ds ∧ e = .declaration .emptyName := by
  cases tracked with
  | idle => cases raised
  | nothing => cases raised
  | badSize uncut =>
    rw [batch_of_one_le _ positive] at uncut
    cases uncut
  | @working done _ _ _ state =>
    have fits := state.fits
    rw [raised] at fits
    obtain ⟨d, mem⟩ := fits
    have loaded := mem_flatten_of_mem_last done mem
    have chosen := state.mem_pending loaded
    have history := state.history _ loaded
    by_cases nameless : d.name = ""
    · refine ⟨mem_hasNameless_iff.mpr ⟨d, chosen, nameless⟩, ?_⟩
      rcases history.eq_error_of_nameless nameless with ⟨-, none⟩ | failed
      · cases none
      · exact Except.error.inj failed
    · obtain ⟨found, ok⟩ := history.ok_of_named nameless
      cases ok

end Tracked

theorem Run.contained (run : Run w limit (.start c [ds]) trace s) (positive : 1 ≤ limit)
    (alone : s.calls = [call]) (finished : call.control.isOver = true) :
    Contained c ds call.control := by
  obtain ⟨call', alone', tracked, -⟩ := run.isolated
  cases alone.symm.trans alone'
  cases control : call.control with
  | idle => rw [control] at finished; cases finished
  | loading => rw [control] at finished; cases finished
  | raised e =>
    obtain ⟨nameless, rfl⟩ := tracked.nameless_of_raised positive control
    exact .inl ⟨nameless, _, rfl, rfl⟩
  | returned found =>
    refine .inr ⟨?_, found, rfl⟩
    intro nameless
    obtain ⟨d, chosen, nameless⟩ := mem_hasNameless_iff.mp nameless
    obtain ⟨more, history⟩ := tracked.history_of_pending control chosen
    rcases history.eq_error_of_nameless nameless with ⟨refused, -⟩ | failed
    · exact run.not_refused d (mem_about.mp refused).1
    · cases failed

theorem not_hasNameless (named : ∀ d ∈ ds, d.name ≠ "") : ¬ HasNameless c ds := by
  intro h
  obtain ⟨d, mem, -, -, nameless⟩ := h
  exact named d mem nameless

theorem named_of_dependencies (text : String) : ∀ d ∈ (dependencies text).value, d.name ≠ "" := by
  intro d mem
  unfold dependencies at mem
  cases read : Syntax.importSpecifiers text with
  | ok specifiers =>
    rw [read] at mem
    exact Dependency.name_ne_empty_of_mem_classify mem
  | error e =>
    rw [read] at mem
    cases mem

theorem Run.learns (run : Run w limit (.start c [ds]) trace s) (positive : 1 ≤ limit)
    (named : ∀ d ∈ ds, d.name ≠ "") (alone : s.calls = [call])
    (finished : call.control.isOver = true) :
    (∃ found, call.control = .returned found) ∧ c.Learns ds s.cache := by
  rcases run.contained positive alone finished with ⟨nameless, -⟩ | ⟨-, found, returned⟩
  · exact absurd nameless (not_hasNameless named)
  · exact ⟨⟨found, returned⟩, (run.extends_of_returned alone returned).learns⟩

theorem resolveSource_value (sources : Registry.Sources) (limit : Nat) (text : String) (c : Cache) :
    ((resolveSource sources limit text).run c).value =
      ((resolve sources limit (dependencies text).value).run c).value := rfl

/-- With the registries of whatever network and settings, every run of a call ends: it raises a
fault of validation where something that it has to load has no name, and returns otherwise. For a
source text it returns, the cache has come to know the keys of what the text imports, and no more is
in flight than before. The same holds of the resolutions that load one package after the other. -/
theorem failures_are_contained (settings : Settings) (c : Cache) :
    (∀ ds, EndsIn (.ofClients settings.registry) settings.concurrency
      (fun s => ∃ call, s.calls = [call] ∧ Contained c ds call.control) (.start c [ds])) ∧
    (∀ client ds, Contained c ds (.ofOutcome ((resolve (Registry.sources client settings.registry)
      settings.concurrency ds).run c).value.1)) ∧
    (∀ text, EndsIn (.ofClients settings.registry) settings.concurrency
      (fun s => (∃ found, s.calls.map (·.control) = [.returned found]) ∧
        c.Learns (dependencies text).value s.cache) (.start c [(dependencies text).value])) ∧
    ∀ client text, ∃ found c', ((resolveSource (Registry.sources client settings.registry)
      settings.concurrency text).run c).value = (.ok found, c') ∧
        c.Learns (dependencies text).value c' := by
  have positive := settings.one_le_concurrency
  refine ⟨?_, ?_, ?_, ?_⟩
  · intro ds
    apply EndsIn.isolated (World.total_ofClients settings.registry)
    intro trace s call run alone finished
    exact ⟨call, alone, run.contained positive alone finished⟩
  · intro client ds
    obtain ⟨call, control, trace, run⟩ :=
      reaches_resolve (respectful_sources client settings.registry) settings.concurrency ds c
    rw [← control]
    exact run.contained positive rfl (control ▸ Control.isOver_ofOutcome _)
  · intro text
    apply EndsIn.isolated (World.total_ofClients settings.registry)
    intro trace s call run alone finished
    obtain ⟨⟨found, returned⟩, learnt⟩ :=
      run.learns positive (named_of_dependencies text) alone finished
    exact ⟨⟨found, by rw [alone, List.map_singleton, returned]⟩, learnt⟩
  · intro client text
    obtain ⟨call, control, trace, run⟩ := reaches_resolve
      (respectful_sources client settings.registry) settings.concurrency (dependencies text).value c
    have finished : call.control.isOver = true := control ▸ Control.isOver_ofOutcome _
    obtain ⟨⟨found, returned⟩, learnt⟩ :=
      run.learns positive (named_of_dependencies text) rfl finished
    rw [resolveSource_value]
    have ok := Control.eq_ok_of_ofOutcome (control.symm.trans returned)
    exact ⟨found, _, Prod.ext ok rfl, learnt⟩

end AmbientTypes.Resolution
