import AmbientTypes.Proofs.Resolution.History
import Mathlib.Data.List.Nodup
import Mathlib.Tactic.Tauto

namespace AmbientTypes.Resolution

/-- What a control says of the loaders of waves that are over, of the last wave, and of the waves to
come. -/
def Control.Fits (done : List (List Loader)) (wave : List Loader)
    (rest : List (List Dependency)) : Control → Prop
  | idle _ => False
  | loading found later => found = done.flatten.flatMap (·.stage.documents) ∧ later = rest
  | returned found => (∀ l ∈ wave, l.stage.isGood = true) ∧ rest = [] ∧
      found = (done ++ [wave]).flatten.flatMap (·.stage.documents)
  | raised e => ∃ d, ⟨d, .ended (.error e)⟩ ∈ wave

/-- A call that has begun to load what was pending by a cache: the waves that are over, the last
one and those to come. -/
structure Working (w : World) (limit : Nat) (c : Cache) (ds : List Dependency)
    (done : List (List Loader)) (rest : List (List Dependency)) (actions : List Action)
    (call : Call) : Prop where
  cut : batch (pending c ds) limit =
    .ok ((done ++ [call.wave]).map (·.map Loader.dependency) ++ rest)
  choices : choices actions = [pending c ds]
  begun : begun actions = (done ++ [call.wave]).map (·.map Loader.dependency)
  good : ∀ l ∈ done.flatten, l.stage.isGood = true
  history : ∀ l ∈ (done ++ [call.wave]).flatten,
    History w l.dependency l.stage (about l.dependency actions)
  only : ∀ a ∈ actions, ∀ d, a.dependency? = some d →
    ∃ l ∈ (done ++ [call.wave]).flatten, l.dependency = d
  fits : call.control.Fits done call.wave rest

/-- What the actions of a call say about its state. -/
inductive Tracked (w : World) (limit : Nat) (c : Cache) (ds : List Dependency) :
    List Action → Call → Prop where
  | idle : Tracked w limit c ds [] ⟨.idle ds, []⟩
  | nothing (none : pending c ds = []) :
      Tracked w limit c ds [.chose [], .returned []] ⟨.returned [], []⟩
  | badSize {e : SizeFault} (uncut : batch (pending c ds) limit = .error e) :
      Tracked w limit c ds [.chose (pending c ds), .raised (.size e)] ⟨.raised (.size e), []⟩
  | working {done : List (List Loader)} {rest : List (List Dependency)} {actions : List Action}
      {call : Call} (state : Working w limit c ds done rest actions call) :
      Tracked w limit c ds actions call

variable {w : World} {limit : Nat} {c c' c'' : Cache} {ds : List Dependency}
  {actions more : List Action} {call call' : Call} {done : List (List Loader)}
  {rest later : List (List Dependency)}

theorem dependencies_fresh (ds : List Dependency) : (fresh ds).map Loader.dependency = ds := by
  simp [fresh, List.map_map, Function.comp_def]

theorem mem_flatten_concat {before after : List Loader} {k l : Loader} :
    k ∈ (done ++ [before ++ l :: after]).flatten ↔
      k = l ∨ k ∈ done.flatten ∨ k ∈ before ∨ k ∈ after := by
  simp only [List.flatten_append, List.flatten_cons, List.flatten_nil, List.append_nil,
    List.mem_append, List.mem_cons]
  tauto

theorem mem_flatten_of_mem_last (done : List (List Loader)) {wave : List Loader} {l : Loader}
    (mem : l ∈ wave) : l ∈ (done ++ [wave]).flatten :=
  List.mem_flatten.mpr ⟨wave, List.mem_append_right done List.mem_cons_self, mem⟩

theorem Control.Fits.load {before after : List Loader} {l l' : Loader} {control : Control}
    (fits : control.Fits done (before ++ l :: after) rest) (step : l.Step w c more c' l') :
    control.Fits done (before ++ l' :: after) rest := by
  cases control with
  | idle => exact fits.elim
  | loading => exact fits
  | returned found =>
    have good := fits.1 l (by simp)
    cases stage : l.stage with
    | ended outcome => exact absurd stage (step.not_ended outcome)
    | _ => simp [stage, Stage.isGood] at good
  | raised e =>
    obtain ⟨d, mem⟩ := fits
    have other : (⟨d, .ended (.error e)⟩ : Loader) ≠ l := by
      intro same
      subst same
      exact step.not_ended _ rfl
    refine ⟨d, ?_⟩
    simp only [List.mem_append, List.mem_cons, other, false_or] at mem ⊢
    tauto

namespace Working

theorem dependencies (state : Working w limit c ds done rest actions call) :
    (done ++ [call.wave]).flatten.map Loader.dependency ++ rest.flatten = pending c ds := by
  have whole := flatten_of_batch state.cut
  rwa [List.flatten_append, ← List.map_flatten] at whole

theorem mem_pending (state : Working w limit c ds done rest actions call) {l : Loader}
    (mem : l ∈ (done ++ [call.wave]).flatten) : l.dependency ∈ pending c ds := by
  rw [← state.dependencies]
  exact List.mem_append_left _ (List.mem_map.mpr ⟨l, mem, rfl⟩)

theorem dependencies_nodup (state : Working w limit c ds done rest actions call) :
    ((done ++ [call.wave]).flatten.map Loader.dependency ++ rest.flatten).Nodup := by
  rw [state.dependencies]
  exact List.Nodup.of_map Dependency.key (keys_pending_nodup c ds)

theorem dependency_ne {before after : List Loader} {k l : Loader} {control : Control}
    (state : Working w limit c ds done rest actions ⟨control, before ++ l :: after⟩)
    (mem : k ∈ done.flatten ∨ k ∈ before ∨ k ∈ after) : k.dependency ≠ l.dependency := by
  intro equal
  have count := List.nodup_iff_count_le_one.mp
    (List.nodup_append.mp state.dependencies_nodup).1 l.dependency
  simp only [List.flatten_append, List.flatten_cons, List.flatten_nil, List.append_nil,
    List.map_append, List.map_cons, List.count_append, List.count_cons_self] at count
  have present : ∀ {ks : List Loader}, k ∈ ks →
      0 < (ks.map Loader.dependency).count l.dependency := by
    intro ks kmem
    rw [List.count_pos_iff, List.mem_map]
    exact ⟨k, kmem, equal⟩
  rcases mem with mem | mem | mem
  all_goals
    have positive := present mem
    omega

theorem about_eq_nil_of_mem_rest (state : Working w limit c ds done rest actions call)
    {d : Dependency} (mem : d ∈ rest.flatten) : about d actions = [] := by
  apply about_eq_nil
  intro a hmem owned
  obtain ⟨l, loaded, same⟩ := state.only a hmem d owned
  have split := (List.nodup_append.mp state.dependencies_nodup).2.2
  exact split _ (List.mem_map.mpr ⟨l, loaded, same⟩) _ mem rfl

/-- A step of a loader of the last wave changes the history of this loader only. -/
theorem load {before after : List Loader} {l l' : Loader} {control : Control}
    (state : Working w limit c ds done rest actions ⟨control, before ++ l :: after⟩)
    (step : l.Step w c' more c'' l') :
    Working w limit c ds done rest (actions ++ more) ⟨control, before ++ l' :: after⟩ := by
  have same := step.dependency_eq
  have owned : ∀ a ∈ more, a.dependency? = some l.dependency :=
    fun a mem => step.dependency?_eq mem
  have waves : (done ++ [before ++ l' :: after]).map (·.map Loader.dependency) =
      (done ++ [before ++ l :: after]).map (·.map Loader.dependency) := by simp [same]
  refine ⟨waves ▸ state.cut, ?_, ?_, state.good, ?_, ?_, state.fits.load step⟩
  · rw [choices_append, choices_eq_nil owned, List.append_nil]
    exact state.choices
  · rw [begun_append, begun_eq_nil owned, List.append_nil, waves]
    exact state.begun
  · intro k mem
    rw [about_append]
    -- the history of the loader goes on, and the step has done nothing about the others
    rcases mem_flatten_concat.mp mem with rfl | other
    · have past := state.history l (mem_flatten_concat.mpr (.inl rfl))
      have next := past.step step
      rw [same] at next ⊢
      rwa [about_eq_self owned]
    · have differ := state.dependency_ne other
      have none : about k.dependency more = [] := by
        apply about_eq_nil
        intro a amem
        rw [owned a amem]
        exact fun equal => differ (Option.some.inj equal).symm
      rw [none, List.append_nil]
      exact state.history k (mem_flatten_concat.mpr (.inr other))
  · intro a mem d owner
    rcases List.mem_append.mp mem with mem | mem
    · obtain ⟨k, kmem, equal⟩ := state.only a mem d owner
      rcases mem_flatten_concat.mp kmem with rfl | other
      · exact ⟨l', mem_flatten_concat.mpr (.inl rfl), same.trans equal⟩
      · exact ⟨k, mem_flatten_concat.mpr (.inr other), equal⟩
    · rw [owned a mem] at owner
      exact ⟨l', mem_flatten_concat.mpr (.inl rfl), same.trans (Option.some.inj owner)⟩

theorem next {found more : List Document} {wave : List Dependency} {loaders : List Loader}
    {outcomes : List Outcome}
    (state : Working w limit c ds done rest actions ⟨.loading found (wave :: later), loaders⟩)
    (all : loaders.map (·.stage) = outcomes.map .ended) (good : gather outcomes = .ok more) :
    Working w limit c ds (done ++ [loaders]) later (actions ++ [.began wave])
      ⟨.loading (found ++ more) later, fresh wave⟩ := by
  obtain ⟨found_eq, rest_eq⟩ := state.fits
  obtain ⟨goods, more_eq⟩ := good_of_gather all good
  have flat : (done ++ [loaders] ++ [fresh wave]).flatten =
      (done ++ [loaders]).flatten ++ fresh wave := by simp
  refine ⟨?_, ?_, ?_, ?_, ?_, ?_, ?_, rfl⟩
  · have cut := state.cut
    rw [← rest_eq] at cut
    simpa [dependencies_fresh] using cut
  · rw [choices_append, state.choices]
    rfl
  · rw [begun_append, state.begun]
    simp [Resolution.begun, Action.began?, dependencies_fresh]
  · intro l mem
    rw [List.flatten_append, List.mem_append] at mem
    rcases mem with mem | mem
    · exact state.good l mem
    · exact goods l (by simpa using mem)
  · intro l mem
    have quiet : ∀ d, about d [Action.began wave] = [] := fun d =>
      about_eq_nil (by simp [Action.dependency?])
    rw [about_append, quiet, List.append_nil]
    rw [flat, List.mem_append] at mem
    rcases mem with mem | mem
    · exact state.history l mem
    · obtain ⟨d, dmem, rfl⟩ := List.mem_map.mp mem
      have coming : d ∈ rest.flatten := by
        rw [← rest_eq]
        exact List.mem_append_left _ dmem
      rw [state.about_eq_nil_of_mem_rest coming]
      exact .waiting
  · intro a mem d owner
    rw [List.mem_append, List.mem_singleton] at mem
    rcases mem with mem | rfl
    · obtain ⟨l, lmem, same⟩ := state.only a mem d owner
      exact ⟨l, by rw [flat]; exact List.mem_append_left _ lmem, same⟩
    · exact absurd owner (by simp [Action.dependency?])
  · rw [found_eq, more_eq]
    simp

/-- Actions about no dependency, and a new control, change no history. -/
theorem control {control control' : Control} {loaders : List Loader} {a : Action}
    (state : Working w limit c ds done rest actions ⟨control, loaders⟩)
    (quiet : a.dependency? = none ∧ a.chose? = none ∧ a.began? = none)
    (fits : control'.Fits done loaders rest) :
    Working w limit c ds done rest (actions ++ [a]) ⟨control', loaders⟩ := by
  obtain ⟨unowned, unchosen, unbegun⟩ := quiet
  refine ⟨state.cut, ?_, ?_, state.good, ?_, ?_, fits⟩
  · rw [choices_append, state.choices]
    simp [Resolution.choices, unchosen]
  · rw [begun_append, state.begun]
    simp [Resolution.begun, unbegun]
  · intro l mem
    have none : about l.dependency [a] = [] := about_eq_nil (by simp [unowned])
    rw [about_append, none, List.append_nil]
    exact state.history l mem
  · intro b mem d owner
    rw [List.mem_append, List.mem_singleton] at mem
    rcases mem with mem | rfl
    · exact state.only b mem d owner
    · exact absurd owner (by simp [unowned])

end Working

theorem tracked_of_chose {wave : List Dependency}
    (cut : batch (pending c ds) limit = .ok (wave :: rest)) :
    Tracked w limit c ds [.chose (pending c ds), .began wave] ⟨.loading [] rest, fresh wave⟩ := by
  refine @Tracked.working w limit c ds [] rest _ _ ⟨?_, rfl, ?_, ?_, ?_, ?_, rfl, rfl⟩
  · simpa [dependencies_fresh] using cut
  · have one : begun [.chose (pending c ds), .began wave] = [wave] := rfl
    simp [one, dependencies_fresh]
  · simp
  · intro l mem
    obtain ⟨d, -, rfl⟩ := List.mem_map.mp (show l ∈ fresh wave by simpa using mem)
    have none : about d [.chose (pending c ds), .began wave] = [] :=
      about_eq_nil (by simp [Action.dependency?])
    rw [none]
    exact .waiting
  · simp [Action.dependency?]

/-- A step keeps a call tracked; the cache that tracks it is that of its first step. -/
theorem Tracked.step (tracked : Tracked w limit c ds actions call)
    (first : ∀ ds', call.control = .idle ds' → c' = c)
    (step : call.Step w limit c' more c'' call') :
    Tracked w limit c ds (actions ++ more) call' := by
  cases tracked with
  | idle =>
    obtain rfl := first ds rfl
    generalize idle : (⟨.idle ds, []⟩ : Call) = call at step
    cases step with
    | nothing none =>
      cases idle
      exact .nothing none
    | chose some cut =>
      cases idle
      exact tracked_of_chose cut
    | badSize some uncut =>
      cases idle
      exact .badSize uncut
    | load => simp at idle
    | next => simp at idle
    | finish => simp at idle
    | raise => simp at idle
  | nothing none =>
    generalize finished : (⟨.returned [], []⟩ : Call) = call at step
    cases step <;> simp at finished
  | badSize uncut =>
    generalize finished : (⟨.raised _, []⟩ : Call) = call at step
    cases step <;> simp at finished
  | working state =>
    cases step with
    | nothing => exact state.fits.elim
    | chose => exact state.fits.elim
    | badSize => exact state.fits.elim
    | load step => exact .working (state.load step)
    | next all good => exact .working (state.next all good)
    | finish all good =>
      obtain ⟨found_eq, rest_eq⟩ := state.fits
      obtain ⟨goods, more_eq⟩ := good_of_gather all good
      refine .working (state.control ⟨rfl, rfl, rfl⟩ ⟨goods, rest_eq.symm, ?_⟩)
      rw [found_eq, more_eq]
      simp
    | raise bad => exact .working (state.control ⟨rfl, rfl, rfl⟩ ⟨_, bad⟩)

end AmbientTypes.Resolution
