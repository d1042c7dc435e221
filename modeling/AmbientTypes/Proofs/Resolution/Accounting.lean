import AmbientTypes.Proofs.Resolution.Trace

namespace AmbientTypes.Resolution

def Loader.running (l : Loader) : List String :=
  if l.stage.isRunning then [l.dependency.key] else []

def Call.running (call : Call) : List String := call.wave.flatMap Loader.running

def State.running (s : State) : List String := s.calls.flatMap Call.running

variable {w : World} {limit : Nat} {c c' : Cache} {inputs : List (List Dependency)}
  {trace : Trace} {s : State} {ds : List Dependency} {actions more : List Action}
  {call call' : Call} {l l' : Loader}

theorem Loader.running_of_isRunning (running : l.stage.isRunning = true) :
    l.running = [l.dependency.key] := if_pos running

theorem Loader.running_of_isGood (good : l.stage.isGood = true) : l.running = [] := by
  unfold Loader.running
  cases stage : l.stage with
  | ended => rfl
  | _ => simp [stage, Stage.isGood] at good

theorem mem_running_call {key : String} :
    key ∈ call.running ↔ ∃ l ∈ call.wave, l.stage.isRunning = true ∧ l.dependency.key = key := by
  simp only [Call.running, List.mem_flatMap, Loader.running]
  constructor
  · intro h
    obtain ⟨l, mem, inside⟩ := h
    split at inside
    · next running => exact ⟨l, mem, running, (List.mem_singleton.mp inside).symm⟩
    · exact absurd inside (by simp)
  · intro h
    obtain ⟨l, mem, running, rfl⟩ := h
    exact ⟨l, mem, by simp [running]⟩

theorem running_eq_nil_of_good {loaders : List Loader}
    (good : ∀ l ∈ loaders, l.stage.isGood = true) : loaders.flatMap Loader.running = [] := by
  rw [List.flatMap_eq_nil_iff]
  exact fun l mem => Loader.running_of_isGood (good l mem)

theorem running_fresh (ds : List Dependency) : (fresh ds).flatMap Loader.running = [] := by
  simp [fresh, Loader.running, Stage.isRunning]

theorem length_flatMap_le {α β : Type} {f : α → List β} {xs : List α} {bound : Nat}
    (each : ∀ x ∈ xs, (f x).length ≤ bound) : (xs.flatMap f).length ≤ xs.length * bound := by
  induction xs with
  | nil => simp
  | cons x xs ih =>
    have first := each x List.mem_cons_self
    have later := ih fun y mem => each y (List.mem_cons_of_mem x mem)
    rw [List.flatMap_cons, List.length_append, List.length_cons, Nat.succ_mul]
    omega

theorem length_running_le (call : Call) : call.running.length ≤ call.wave.length := by
  have one : ∀ l ∈ call.wave, l.running.length ≤ 1 := by
    intro l mem
    unfold Loader.running
    split <;> simp
  have bound := length_flatMap_le one
  rwa [Nat.mul_one] at bound

/-- A loader that starts to run puts its key in flight, and one that ends takes it out. -/
theorem Loader.Step.count_inFlight (step : l.Step w c more c' l')
    (kept : ∀ key ∈ l.running, key ∈ c.inFlight) (key : String) :
    c'.inFlight.count key + l.running.count key =
      c.inFlight.count key + l'.running.count key := by
  cases step with
  | refused => rfl
  | invalid free nameless =>
    have grown := (Cache.of_acquire? free).2.2
    simp [grown, Loader.running, Stage.isRunning]
  | asked free named =>
    have grown := (Cache.of_acquire? free).2.2
    rw [grown, Loader.running_of_isRunning (l := ⟨_, .asked⟩) rfl]
    simp only [List.count_cons, List.count_nil, Loader.running, Stage.isRunning]
    simp
  | askedFallback => rfl
  | @ended d stage outcome finished =>
    rw [Loader.running_of_isRunning finished.isRunning] at kept ⊢
    -- the loader has run, so there is a mark to give up
    have positive := List.count_pos_iff.mpr (kept d.key List.mem_cons_self)
    rw [Cache.clearInFlight_inFlight, List.count_erase, Loader.running]
    by_cases same : d.key = key
    · subst same
      simp [Stage.isRunning]
      omega
    · simp [same, Stage.isRunning]

theorem Loader.Step.resolved_eq (step : l.Step w c more c' l') :
    c'.resolved = (taken more).map Dependency.key ++ c.resolved := by
  cases step with
  | refused => rfl
  | invalid free nameless => exact (Cache.of_acquire? free).2.1
  | asked free named => exact (Cache.of_acquire? free).2.1
  | askedFallback => rfl
  | ended finished => rfl

theorem Loader.Step.inFlight_subset (step : l.Step w c more c' l')
    (sub : ∀ key ∈ c.inFlight, key ∈ c.resolved) : ∀ key ∈ c'.inFlight, key ∈ c'.resolved := by
  intro key mem
  cases step with
  | refused => exact sub key mem
  | invalid free nameless =>
    obtain ⟨-, resolved, inFlight⟩ := Cache.of_acquire? free
    rw [Cache.clearInFlight_inFlight, inFlight, List.erase_cons_head] at mem
    rw [Cache.clearInFlight_resolved, resolved]
    exact List.mem_cons_of_mem _ (sub key mem)
  | asked free named =>
    obtain ⟨-, resolved, inFlight⟩ := Cache.of_acquire? free
    rw [inFlight, List.mem_cons] at mem
    rw [resolved, List.mem_cons]
    exact mem.imp id (sub key)
  | askedFallback => exact sub key mem
  | ended finished => exact sub key (List.mem_of_mem_erase mem)

theorem Call.Step.count_inFlight (step : call.Step w limit c more c' call')
    (kept : ∀ key ∈ call.running, key ∈ c.inFlight) (key : String) :
    c'.inFlight.count key + call.running.count key =
      c.inFlight.count key + call'.running.count key := by
  cases step with
  | nothing => rfl
  | chose => simp [Call.running, running_fresh]
  | badSize => rfl
  | @load _ control before after l l' _ step =>
    have own := step.count_inFlight (fun k mem => kept k (by simp [Call.running, mem])) key
    simp only [Call.running, List.flatMap_append, List.flatMap_cons, List.count_append]
    omega
  | next all good =>
    rw [Call.running, Call.running, running_fresh,
      running_eq_nil_of_good (good_of_gather all good).1]
  | finish => rfl
  | raise => rfl

theorem Call.Step.resolved_eq (step : call.Step w limit c more c' call') :
    c'.resolved = (taken more).map Dependency.key ++ c.resolved := by
  cases step with
  | load step => exact step.resolved_eq
  | _ => rfl

theorem Call.Step.inFlight_subset (step : call.Step w limit c more c' call')
    (sub : ∀ key ∈ c.inFlight, key ∈ c.resolved) : ∀ key ∈ c'.inFlight, key ∈ c'.resolved := by
  cases step with
  | load step => exact step.inFlight_subset sub
  | _ => exact sub

/-- What a cache owes to the calls: the marks of running loaders and the keys that have been
taken, beside what was there before. -/
structure Balanced (c : Cache) (trace : Trace) (s : State) : Prop where
  inFlight : ∀ key, s.cache.inFlight.count key = s.running.count key + c.inFlight.count key
  resolved : ∀ key, s.cache.resolved.count key =
    ((takers trace).map (·.2.key)).count key + c.resolved.count key

theorem Run.balanced (run : Run w limit (.start c inputs) trace s) : Balanced c trace s := by
  induction run with
  | nil =>
    constructor <;> intro key
    · have none : (State.start c inputs).running = [] := by
        rw [State.running, State.start, List.flatMap_map, List.flatMap_eq_nil_iff]
        exact fun ds mem => rfl
      rw [none, List.count_nil, Nat.zero_add, State.start]
    · simp [State.start, takers, doers]
  | snoc run step ih =>
    cases step with
    | @call old new before after call call' actions step =>
      -- a running loader accounts for a mark, so the end of its load finds one
      have kept : ∀ key ∈ call.running, key ∈ old.inFlight := by
        intro key mem
        have marked := ih.inFlight key
        have positive := List.count_pos_iff.mpr mem
        simp only [State.running, List.flatMap_append, List.flatMap_cons, List.count_append]
          at marked
        exact List.count_pos_iff.mp (by omega)
      constructor <;> intro key
      · have marked := ih.inFlight key
        have changed := step.count_inFlight kept key
        simp only [State.running, List.flatMap_append, List.flatMap_cons, List.count_append]
          at marked ⊢
        omega
      · have known := ih.resolved key
        simp only [takers] at known ⊢
        rw [doers_append, doers_map, List.map_append, List.count_append, List.map_map]
        have keys : (actions.filterMap Action.took?).map
            ((·.2.key) ∘ fun d => (before.length, d)) = (taken actions).map Dependency.key := rfl
        rw [keys, step.resolved_eq, List.count_append, known]
        omega

theorem Run.inFlight_subset (run : Run w limit (.start c inputs) trace s)
    (sub : ∀ key ∈ c.inFlight, key ∈ c.resolved) :
    ∀ key ∈ s.cache.inFlight, key ∈ s.cache.resolved := by
  induction run with
  | nil => exact sub
  | snoc run step ih =>
    cases step with
    | call step => exact step.inFlight_subset ih

theorem mem_inFlight_iff (balanced : Balanced .empty trace s) {key : String} :
    key ∈ s.cache.inFlight ↔ key ∈ s.running := by
  have marked := balanced.inFlight key
  rw [← List.count_pos_iff, ← List.count_pos_iff, marked]
  simp [Cache.empty]

theorem keys_takers_nodup (balanced : Balanced .empty trace s) :
    ((takers trace).map (·.2.key)).Nodup := by
  rw [List.nodup_iff_count_le_one]
  intro key
  have known := balanced.resolved key
  have once := List.nodup_iff_count_le_one.mp s.cache.resolved_nodup key
  omega

theorem History.holding_iff {d : Dependency} {stage : Stage}
    (history : History w d stage actions) :
    (.took d ∈ actions ∧ ∀ outcome, .ended d outcome ∉ actions) ↔ stage.isRunning = true := by
  cases history with
  | waiting => simp [Stage.isRunning]
  | refused => simp [Stage.isRunning]
  | invalid => simp [Stage.isRunning]
  | asked => simp [Stage.isRunning]
  | askedFallback => simp [Stage.isRunning]
  | @ended _ outcome _ past finished =>
    constructor
    · exact fun held => absurd (List.mem_append_right _ List.mem_cons_self) (held.2 outcome)
    · simp [Stage.isRunning]

/-- The loaders of a call that hold keys are running loaders of its last wave. -/
theorem Tracked.holding_iff (tracked : Tracked w limit c ds actions call) {d : Dependency} :
    (.took d ∈ actions ∧ ∀ outcome, .ended d outcome ∉ actions) ↔
      ∃ l ∈ call.wave, l.dependency = d ∧ l.stage.isRunning = true := by
  cases tracked with
  | idle => simp
  | nothing => simp
  | badSize => simp
  | @working done rest _ _ state =>
    have holding : (.took d ∈ actions ∧ ∀ outcome, .ended d outcome ∉ actions) ↔
        .took d ∈ about d actions ∧ ∀ outcome, .ended d outcome ∉ about d actions := by
      simp only [mem_about, Action.dependency?, and_true]
    rw [holding]
    constructor
    · intro held
      obtain ⟨l, mem, rfl⟩ := state.only _ (mem_about.mp held.1).1 d rfl
      have running := (state.history l mem).holding_iff.mp held
      rw [List.flatten_append, List.mem_append] at mem
      rcases mem with finished | last
      · have good := state.good l finished
        cases stage : l.stage <;> simp [stage, Stage.isGood, Stage.isRunning] at good running
      · exact ⟨l, by simpa using last, rfl, running⟩
    · intro h
      obtain ⟨l, mem, rfl, running⟩ := h
      exact (state.history l (mem_flatten_of_mem_last done mem)).holding_iff.mpr running

theorem Tracked.length_wave_le (tracked : Tracked w limit c ds actions call) :
    call.wave.length ≤ limit := by
  cases tracked with
  | idle => simp
  | nothing => simp
  | badSize => simp
  | @working done rest _ _ state =>
    have last : call.wave.map Loader.dependency ∈
        (done ++ [call.wave]).map (·.map Loader.dependency) ++ rest := by simp
    have bound := length_le_of_batch state.cut last
    rwa [List.length_map] at bound

theorem Run.mem_holders_iff (run : Run w limit (.start c inputs) trace s) {i : Nat}
    {d : Dependency} :
    (i, d) ∈ holders trace ↔ ∃ call, s.calls[i]? = some call ∧
      ∃ l ∈ call.wave, l.dependency = d ∧ l.stage.isRunning = true := by
  rw [mem_holders]
  constructor
  · intro held
    obtain ⟨call, current⟩ := run.call_of_mem (mem_own.mp held.1)
    obtain ⟨_, _, _, now⟩ := run.tracked_at current
    exact ⟨call, current, now.holding_iff.mp held⟩
  · intro h
    obtain ⟨call, current, running⟩ := h
    obtain ⟨_, _, _, now⟩ := run.tracked_at current
    exact now.holding_iff.mpr running

/-- Where a list has been cut: nothing is lost, the number of parts is the quotient of the lengths,
rounded up, and only the last part may be short. -/
structure CutInto (limit : Nat) (ds : List Dependency) (waves : List (List Dependency)) :
    Prop where
  whole : waves.flatten = ds
  rounded : waves.length = (ds.length + limit - 1) / limit
  bounded : ∀ wave ∈ waves, wave.length ≤ limit
  full : ∀ wave ∈ waves.dropLast, wave.length = limit

theorem Tracked.cutInto (tracked : Tracked w limit c ds actions call) {found : List Document}
    (returned : call.control = .returned found) :
    .chose (pending c ds) ∈ actions ∧ CutInto limit (pending c ds) (begun actions) := by
  cases tracked with
  | idle => cases returned
  | badSize => cases returned
  | nothing none =>
    have unbegun : begun [.chose [], .returned []] = [] := rfl
    have zero : (limit - 1) / limit = 0 := by
      rw [Nat.div_eq_zero_iff]
      omega
    rw [none, unbegun]
    exact ⟨List.mem_cons_self, rfl, by simp [zero], by simp, by simp⟩
  | working state =>
    have cut := state.cut
    have finished := state.fits
    rw [returned] at finished
    rw [finished.2.1, List.append_nil, ← state.begun] at cut
    refine ⟨?_, flatten_of_batch cut, length_of_batch cut, fun _ => length_le_of_batch cut,
      fun _ => full_of_batch cut⟩
    have chosen : pending c ds ∈ choices actions := by simp [state.choices]
    obtain ⟨a, mem, chose⟩ := List.mem_filterMap.mp chosen
    cases a <;> cases chose
    exact mem

theorem keys_holders_nodup (balanced : Balanced .empty trace s) :
    ((holders trace).map (·.2.key)).Nodup :=
  (keys_takers_nodup balanced).sublist (List.filter_sublist.map _)

theorem length_le_of_keys {held : List (Nat × Dependency)} {keys : List String}
    (distinct : (held.map (·.2.key)).Nodup) (inside : ∀ e ∈ held, e.2.key ∈ keys) :
    held.length ≤ keys.length := by
  have sub : held.map (·.2.key) ⊆ keys := by
    intro key mem
    obtain ⟨e, emem, rfl⟩ := List.mem_map.mp mem
    exact inside e emem
  have bound := distinct.length_le_of_subset sub
  rwa [List.length_map] at bound

theorem Run.mem_running_iff (run : Run w limit (.start c inputs) trace s) {key : String} :
    key ∈ s.running ↔ ∃ e ∈ holders trace, e.2.key = key := by
  rw [State.running, List.mem_flatMap]
  constructor
  · intro h
    obtain ⟨call, mem, running⟩ := h
    obtain ⟨l, lmem, runs, rfl⟩ := mem_running_call.mp running
    obtain ⟨i, current⟩ := List.mem_iff_getElem?.mp mem
    exact ⟨(i, l.dependency), run.mem_holders_iff.mpr ⟨call, current, l, lmem, rfl, runs⟩, rfl⟩
  · intro h
    obtain ⟨⟨i, d⟩, held, rfl⟩ := h
    obtain ⟨call, current, l, lmem, rfl, running⟩ := run.mem_holders_iff.mp held
    exact ⟨call, List.mem_of_getElem? current, mem_running_call.mpr ⟨l, lmem, running, rfl⟩⟩

theorem Run.length_wave_le (run : Run w limit (.start c inputs) trace s) (mem : call ∈ s.calls) :
    call.wave.length ≤ limit := by
  obtain ⟨i, current⟩ := List.mem_iff_getElem?.mp mem
  obtain ⟨_, _, _, now⟩ := run.tracked_at current
  exact now.length_wave_le

theorem Run.length_running_le (run : Run w limit (.start c inputs) trace s) :
    s.running.length ≤ inputs.length * limit := by
  have each : ∀ call ∈ s.calls, call.running.length ≤ limit := fun call mem =>
    Nat.le_trans (Resolution.length_running_le call) (run.length_wave_le mem)
  rw [← run.tracked.1]
  exact length_flatMap_le each

theorem Run.length_holders_le (run : Run w limit (.start .empty inputs) trace s) (i : Nat) :
    ((holders trace).filter (·.1 = i)).length ≤ limit := by
  have distinct : (((holders trace).filter (·.1 = i)).map (·.2.key)).Nodup :=
    (keys_holders_nodup run.balanced).sublist (List.filter_sublist.map _)
  cases current : s.calls[i]? with
  | none =>
    have gone : (holders trace).filter (·.1 = i) = [] := by
      rw [List.filter_eq_nil_iff]
      intro e held same
      obtain ⟨j, d⟩ := e
      obtain rfl : j = i := of_decide_eq_true same
      obtain ⟨call, found, -⟩ := run.mem_holders_iff.mp held
      rw [current] at found
      cases found
    rw [gone]
    exact Nat.zero_le limit
  | some call =>
    have inside : ∀ e ∈ (holders trace).filter (·.1 = i), e.2.key ∈ call.running := by
      intro e mem
      obtain ⟨j, d⟩ := e
      obtain ⟨held, same⟩ := List.mem_filter.mp mem
      obtain rfl : j = i := of_decide_eq_true same
      obtain ⟨call', found, l, lmem, rfl, running⟩ := run.mem_holders_iff.mp held
      rw [current] at found
      cases found
      exact mem_running_call.mpr ⟨l, lmem, running, rfl⟩
    calc ((holders trace).filter (·.1 = i)).length
        ≤ call.running.length := length_le_of_keys distinct inside
      _ ≤ call.wave.length := Resolution.length_running_le call
      _ ≤ limit := run.length_wave_le (List.mem_of_getElem? current)

/-- A call that has returned has gone through the waves of what was pending when it chose. -/
theorem Run.cutInto (run : Run w limit (.start c inputs) trace s) {i : Nat} {found : List Document}
    (current : s.calls[i]? = some call) (returned : call.control = .returned found) :
    ∃ before after now ds, trace = before ++ (i, .chose (pending now.cache ds)) :: after ∧
      Run w limit (.start c inputs) before now ∧ inputs[i]? = some ds ∧
      CutInto limit (pending now.cache ds) (begun (own i trace)) := by
  obtain ⟨_, _, _, tracked⟩ := run.tracked_at current
  obtain ⟨chose, cut⟩ := tracked.cutInto returned
  obtain ⟨before, after, split⟩ := List.append_of_mem (mem_own.mp chose)
  obtain ⟨now, ds, past, input, equal⟩ := run.chose split
  rw [equal] at split cut
  exact ⟨before, after, now, ds, split, past, input, cut⟩

theorem Tracked.good_of_returned (tracked : Tracked w limit c ds actions call)
    {found : List Document} (returned : call.control = .returned found) :
    ∀ l ∈ call.wave, l.stage.isGood = true := by
  cases tracked with
  | idle => cases returned
  | nothing => simp
  | badSize => cases returned
  | working state =>
    have finished := state.fits
    rw [returned] at finished
    exact finished.1

theorem Run.inFlight_eq_nil (run : Run w limit (.start .empty inputs) trace s)
    (finished : ∀ call ∈ s.calls, ∃ found, call.control = .returned found) :
    s.cache.inFlight = [] := by
  rw [List.eq_nil_iff_forall_not_mem]
  intro key mem
  rw [mem_inFlight_iff run.balanced, State.running, List.mem_flatMap] at mem
  obtain ⟨call, mem, running⟩ := mem
  obtain ⟨found, returned⟩ := finished call mem
  obtain ⟨i, current⟩ := List.mem_iff_getElem?.mp mem
  obtain ⟨_, _, _, now⟩ := run.tracked_at current
  have none : call.running = [] := running_eq_nil_of_good (now.good_of_returned returned)
  rw [none] at running
  cases running

/-- What holds in each state that calls with a fresh cache reach: the keys in flight are those of
the loaders that have taken them and have not ended, each call has at most as many of these as its
limit, and its waves are a cut of what was pending, each after the one before it. -/
structure Accounted (w : World) (limit : Nat) (inputs : List (List Dependency)) (trace : Trace)
    (s : State) : Prop where
  inFlight : ∀ key, key ∈ s.cache.inFlight ↔ ∃ e ∈ holders trace, e.2.key = key
  resolved : ∀ key ∈ s.cache.inFlight, key ∈ s.cache.resolved
  together : (holders trace).length ≤ inputs.length * limit
  each : ∀ i, ((holders trace).filter (·.1 = i)).length ≤ limit
  waves : WavesInOrder trace
  cut : ∀ i call found, s.calls[i]? = some call → call.control = .returned found →
    ∃ before after now ds, trace = before ++ (i, .chose (pending now.cache ds)) :: after ∧
      Run w limit (.start .empty inputs) before now ∧ inputs[i]? = some ds ∧
      CutInto limit (pending now.cache ds) (begun (own i trace))
  quiet : (∀ call ∈ s.calls, ∃ found, call.control = .returned found) → s.cache.inFlight = []

theorem Run.inFlight_accounted (run : Run w limit (.start .empty inputs) trace s) :
    Accounted w limit inputs trace s := by
  refine ⟨?_, run.inFlight_subset (by simp [Cache.empty]), ?_, run.length_holders_le,
    run.wavesInOrder, fun _ _ _ => run.cutInto, run.inFlight_eq_nil⟩
  · intro key
    rw [mem_inFlight_iff run.balanced, run.mem_running_iff]
  · have inside : ∀ e ∈ holders trace, e.2.key ∈ s.running :=
      fun e held => run.mem_running_iff.mpr ⟨e, held, rfl⟩
    calc (holders trace).length
        ≤ s.running.length := length_le_of_keys (keys_holders_nodup run.balanced) inside
      _ ≤ inputs.length * limit := run.length_running_le

/-- Sources by which every package has one empty file. -/
def plainSources : Registry.Sources := fun _ _ _ => pure ⟨"", [⟨"index.d.ts", []⟩]⟩

theorem respectful_plainSources : Respectful plainSources := by
  intro kind name version told
  cases told

def plainWorld : World := .ofSources plainSources respectful_plainSources

def plainPackage : Dependency := ⟨"", "react", ""⟩

/-- The cache while the package is loaded. -/
def loadingCache : Cache where
  resolved := [plainPackage.key]
  inFlight := [plainPackage.key]

/-- Two calls have chosen one package, and the first of them loads it. -/
theorem plain_run_asked :
    ∃ trace, Run plainWorld 1 (.start .empty [[plainPackage], [plainPackage]]) trace
      ⟨loadingCache, [⟨.loading [] [], [⟨plainPackage, .asked⟩]⟩,
        ⟨.loading [] [], [⟨plainPackage, .waiting⟩]⟩]⟩ := by
  have some : pending .empty [plainPackage] ≠ [] := by decide
  have cut : batch (pending .empty [plainPackage]) 1 = .ok [[plainPackage]] := by
    have all : pending .empty [plainPackage] = [plainPackage] := by decide
    rw [all]
    simp [batch, waves]
  have free : Cache.empty.acquire? plainPackage.key = Option.some loadingCache := by decide
  have chose := @State.Step.call plainWorld 1 _ _ [] [⟨.idle [plainPackage], []⟩] _ _ _
    (.chose some cut)
  have chose' := @State.Step.call plainWorld 1 _ _ [⟨.loading [] [], fresh [plainPackage]⟩] [] _ _
    _ (.chose some cut)
  have asked := @State.Step.call plainWorld 1 _ _ [] [⟨.loading [] [], fresh [plainPackage]⟩] _ _ _
    (@Call.Step.load plainWorld 1 _ _ (.loading [] []) [] [] _ _ _ (.asked free (by decide)))
  exact ⟨_, ((Run.nil.snoc chose).snoc chose').snoc asked⟩

theorem inFlight_accounted_of_plain : ∃ trace s,
    Run plainWorld 1 (.start .empty [[plainPackage], [plainPackage]]) trace s ∧
      s.cache.inFlight = [plainPackage.key] ∧
      Accounted plainWorld 1 [[plainPackage], [plainPackage]] trace s := by
  obtain ⟨trace, run⟩ := plain_run_asked
  exact ⟨trace, _, run, rfl, run.inFlight_accounted⟩

end AmbientTypes.Resolution
