import AmbientTypes.Proofs.Resolution.Isolated
import AmbientTypes.Proofs.Resolution.Sequential

namespace AmbientTypes.Resolution

variable {sources : Registry.Sources} {respectful : Respectful sources} {limit : Nat} {c : Cache}
  {ds : List Dependency} {actions : List Action} {call : Call} {d : Dependency} {outcome : Outcome}
  {trace : Trace} {s : State}

/-- What a call gives, without waves: for each place the documents of its package, but nothing for a
key that the cache holds or that stands before. -/
def answer (sources : Registry.Sources) (c : Cache) (ds : List Dependency) : List Document :=
  placed (fun d => if c.holds d.key then [] else found sources d) ds

theorem World.total_ofSources (sources : Registry.Sources) (respectful : Respectful sources) :
    (World.ofSources sources respectful).Total :=
  fun _ _ _ => ⟨_, rfl⟩

/-- A loader that has taken its key ends as a load on its own does. -/
theorem History.outcome_eq (history : History (.ofSources sources respectful) d (.ended outcome)
    actions) (took : .took d ∈ actions) : outcome = (loadTaken sources d).value := by
  cases history with
  | refused => simp at took
  | invalid nameless => exact (loadTaken_of_nameless nameless).symm
  | ended past finished =>
    have running := finished.isRunning
    cases past with
    | asked named =>
      cases finished with
      | replied told enough => exact (loadTaken_of_replied named told enough).symm
      | crashed _ crash => exact crash.elim
    | askedFallback named told more =>
      cases finished with
      | fallbackReplied told' => exact (loadTaken_of_fallbackReplied named told more told').symm
      | crashed _ crash => exact crash.elim
    | _ => cases running

theorem Run.eq_answer (run : Run (.ofSources sources respectful) limit (.start c [ds]) trace s)
    (alone : s.calls = [call]) {given : List Document}
    (returned : call.control = .returned given) : given = answer sources c ds := by
  obtain ⟨call', alone', tracked, -⟩ := run.isolated
  cases alone.symm.trans alone'
  rw [answer, ← flatMap_pending fun d _ held => if_pos held]
  apply tracked.found_eq returned
  intro d chosen more ended
  have free := (mem_pending_iff.mp chosen).1
  obtain ⟨more', history⟩ := tracked.history_of_pending returned chosen
  obtain rfl : more = more' :=
    Except.ok.inj (history.ended_unique (mem_about.mpr ⟨ended, rfl⟩))
  rw [if_neg (by simp [free])]
  rcases history.taken_or_refused with took | refused
  · exact eq_found_of_loadTaken (history.outcome_eq took).symm
  · exact absurd (mem_about.mp refused).1 (run.not_refused d)

theorem Run.answers (run : Run (.ofSources sources respectful) limit (.start c [ds]) trace s)
    (positive : 1 ≤ limit) (named : ∀ d ∈ ds, d.name ≠ "") (alone : s.calls = [call])
    (finished : call.control.isOver = true) :
    call.control = .returned (answer sources c ds) ∧ c.Extends ds s.cache := by
  obtain ⟨call', alone', tracked, -⟩ := run.isolated
  cases alone.symm.trans alone'
  obtain ⟨given, returned⟩ := tracked.returned_of_isOver positive named finished
  exact ⟨run.eq_answer alone returned ▸ returned, run.extends_of_returned alone returned⟩

theorem Control.isOver_ofOutcome (outcome : Outcome) :
    (Control.ofOutcome outcome).isOver = true := by
  cases outcome <;> rfl

theorem Control.eq_ok_of_ofOutcome {given : List Document}
    (returned : Control.ofOutcome outcome = .returned given) : outcome = .ok given := by
  cases outcome with
  | ok found => rw [Control.returned.inj returned]
  | error e => cases returned

/-- What holds of the answer holds of what a call returns at the end of every run, and of what the
resolution that loads one package after the other gives. -/
theorem returns_of_answer (respectful : Respectful sources) (c : Cache) (positive : 1 ≤ limit)
    (named : ∀ d ∈ ds, d.name ≠ "") {p : List Document → Prop} (holds : p (answer sources c ds)) :
    EndsIn (.ofSources sources respectful) limit
      (fun s => ∃ given, s.calls.map (·.control) = [.returned given] ∧ p given) (.start c [ds]) ∧
    ∃ given, ((resolve sources limit ds).run c).value.1 = .ok given ∧ p given := by
  constructor
  · apply EndsIn.isolated (World.total_ofSources sources respectful)
    intro trace s call run alone finished
    obtain ⟨given, -⟩ := run.answers positive named alone finished
    exact ⟨_, by rw [alone, List.map_singleton, given], holds⟩
  · obtain ⟨call, control, trace, run⟩ := reaches_resolve respectful limit ds c
    have finished : call.control.isOver = true := control ▸ Control.isOver_ofOutcome _
    obtain ⟨given, -⟩ := run.answers positive named rfl finished
    exact ⟨_, Control.eq_ok_of_ofOutcome (control.symm.trans given), holds⟩

/-- The answer is made of what is pending. -/
theorem answer_eq_flatMap (sources : Registry.Sources) (c : Cache) (ds : List Dependency) :
    answer sources c ds = (pending c ds).flatMap (found sources) := by
  rw [answer, ← flatMap_pending fun d _ held => if_pos held]
  apply List.flatMap_congr
  intro d chosen
  rw [if_neg (by simp [(mem_pending_iff.mp chosen).1])]

/-- With sources that always say the same of a package, every run of a call for packages with names
ends with its answer, which depends neither on the limit nor on the order of the steps; so does the
resolution that loads one package after the other. The cache has come to know the keys that were
pending, and nothing else is in flight than before. -/
theorem waves_keep_answer (respectful : Respectful sources) (c : Cache) (positive : 1 ≤ limit)
    (named : ∀ d ∈ ds, d.name ≠ "") :
    EndsIn (.ofSources sources respectful) limit
      (fun s => s.calls.map (·.control) = [.returned (answer sources c ds)] ∧
        c.Extends ds s.cache) (.start c [ds]) ∧
    ((resolve sources limit ds).run c).value.1 = .ok (answer sources c ds) ∧
    c.Extends ds ((resolve sources limit ds).run c).value.2 := by
  constructor
  · apply EndsIn.isolated (World.total_ofSources sources respectful)
    intro trace s call run alone finished
    obtain ⟨given, known⟩ := run.answers positive named alone finished
    rw [alone, List.map_singleton, given]
    exact ⟨rfl, known⟩
  · obtain ⟨call, control, trace, run⟩ := reaches_resolve respectful limit ds c
    have finished : call.control.isOver = true := control ▸ Control.isOver_ofOutcome _
    obtain ⟨given, known⟩ := run.answers positive named rfl finished
    exact ⟨Control.eq_ok_of_ofOutcome (control.symm.trans given), known⟩

/-- Sources by which one package is gone and every other has one empty file. -/
def gappedSources : Registry.Sources := fun kind name version =>
  if name = "gone" then throw (.noLatest name) else plainSources kind name version

theorem respectful_gappedSources : Respectful gappedSources := by
  intro kind name version told
  unfold gappedSources at told
  split at told
  · cases told
  · exact respectful_plainSources kind name version told

/-- One package is known, and another one is being loaded. -/
def busyCache : Cache where
  resolved := ["react", "express"]
  inFlight := ["express"]

def unpinned (name : String) : Dependency := ⟨"", name, ""⟩

/-- The cache holds two of these, one stands twice and one is gone. -/
def mixedPackages : List Dependency :=
  ["vue", "react", "gone", "axios", "vue", "express", "lodash"].map unpinned

theorem waves_keep_answer_of_mixed :
    batch (pending busyCache mixedPackages) 2 =
      .ok [["vue", "gone"].map unpinned, ["axios", "lodash"].map unpinned] ∧
    (answer gappedSources busyCache mixedPackages).map Document.path =
      ["vue/index.d.ts", "vue/__types__.d.ts", "axios/index.d.ts", "axios/__types__.d.ts",
        "lodash/index.d.ts", "lodash/__types__.d.ts"] ∧
    ∀ limit ∈ [2, 20],
      EndsIn (.ofSources gappedSources respectful_gappedSources) limit
        (fun s => s.calls.map (·.control) =
            [.returned (answer gappedSources busyCache mixedPackages)] ∧
          busyCache.Extends mixedPackages s.cache) (.start busyCache [mixedPackages]) ∧
      ((resolve gappedSources limit mixedPackages).run busyCache).value.1 =
        .ok (answer gappedSources busyCache mixedPackages) ∧
      busyCache.Extends mixedPackages
        ((resolve gappedSources limit mixedPackages).run busyCache).value.2 := by
  refine ⟨?_, by decide +kernel, ?_⟩
  · have chosen : pending busyCache mixedPackages =
        ["vue", "gone", "axios", "lodash"].map unpinned := by decide
    rw [chosen]
    simp [batch, waves]
  · intro limit mem
    have positive : ∀ limit ∈ [2, 20], 1 ≤ limit := by decide
    have named : ∀ d ∈ mixedPackages, d.name ≠ "" := by decide
    exact waves_keep_answer respectful_gappedSources busyCache (positive limit mem) named

end AmbientTypes.Resolution
