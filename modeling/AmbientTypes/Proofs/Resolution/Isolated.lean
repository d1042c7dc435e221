import AmbientTypes.Proofs.Resolution.Termination

namespace AmbientTypes.Resolution

variable {w : World} {limit : Nat} {c c' : Cache} {trace : Trace} {s : State}
  {ds : List Dependency} {actions more : List Action} {call call' : Call} {d : Dependency}

theorem Call.Step.ne_nil (step : call.Step w limit c more c' call') : more ≠ [] := by
  cases step with
  | load step => cases step <;> exact List.cons_ne_nil _ _
  | _ => exact List.cons_ne_nil _ _

/-- An isolated call is tracked by the first cache. -/
theorem Run.isolated (run : Run w limit (.start c [ds]) trace s) :
    ∃ call, s.calls = [call] ∧ Tracked w limit c ds (own 0 trace) call ∧
      (own 0 trace = [] → s.cache = c) := by
  induction run with
  | nil => exact ⟨⟨.idle ds, []⟩, rfl, .idle, fun _ => rfl⟩
  | snoc run step ih =>
    obtain ⟨call, alone, tracked, unchanged⟩ := ih
    cases step with
    | @call _ _ before after call₁ call₂ actions step =>
      obtain ⟨rfl, rest⟩ : before = [] ∧ call₁ :: after = [call] := by
        cases before with
        | nil => exact ⟨rfl, alone⟩
        | cons => simp at alone
      obtain ⟨rfl, rfl⟩ := List.cons.inj rest
      have same : own 0 (actions.map fun a => (0, a)) = actions := own_map_self 0 actions
      rw [own_append, List.length_nil, same]
      refine ⟨call₂, rfl, tracked.step ?_ step, ?_⟩
      · exact fun ds' idle => unchanged (tracked.eq_of_idle idle).2.1
      · exact fun none => absurd (List.append_eq_nil_iff.mp none).2 step.ne_nil

theorem History.not_refused_of_took {stage : Stage} (history : History w d stage actions)
    (took : .took d ∈ actions) : .refused d ∉ actions := by
  have none : ∀ {stage actions}, History w d stage actions → stage.isRunning = true →
      .refused d ∉ actions := by
    intro stage actions past running
    cases past with
    | asked => simp
    | askedFallback => simp
    | _ => cases running
  cases history with
  | waiting => cases took
  | refused => simp at took
  | invalid => simp
  | asked named => exact none (.asked named) rfl
  | askedFallback named told more => exact none (.askedFallback named told more) rfl
  | ended past finished =>
    rw [List.mem_append, List.mem_singleton]
    intro h
    rcases h with early | last
    · exact none past finished.isRunning early
    · cases last

theorem Run.mem_takers_isolated (run : Run w limit (.start c [ds]) trace s) {e : Nat × Dependency}
    (taken : e ∈ takers trace) : .took e.2 ∈ own 0 trace ∧ e.2 ∈ pending c ds := by
  obtain ⟨call, alone, tracked, -⟩ := run.isolated
  obtain ⟨i, d⟩ := e
  have took := mem_takers.mp taken
  obtain ⟨call', current⟩ := run.call_of_mem (mem_own.mp took)
  obtain rfl : i = 0 := by
    have known := (List.getElem?_eq_some_iff.mp current).1
    rw [alone, List.length_singleton] at known
    omega
  exact ⟨took, (tracked.history_of_mem took rfl).1⟩

/-- Nobody else takes a key that an isolated call has chosen. -/
theorem Run.not_refused (run : Run w limit (.start c [ds]) trace s) (d : Dependency) :
    .refused d ∉ own 0 trace := by
  intro refused
  obtain ⟨call, -, tracked, -⟩ := run.isolated
  obtain ⟨chosen, stage, history⟩ := tracked.history_of_mem refused rfl
  rcases run.taken_of_refused refused with held | ⟨e, taken, same⟩
  · exact absurd held (by simp [(mem_pending_iff.mp chosen).1])
  · obtain ⟨took, chosen'⟩ := run.mem_takers_isolated taken
    rw [eq_of_key_eq chosen' chosen same] at took
    exact history.not_refused_of_took (mem_about.mpr ⟨took, rfl⟩) (mem_about.mpr ⟨refused, rfl⟩)

/-- What becomes of a cache by which dependencies have been loaded. -/
structure Cache.Extends (c : Cache) (ds : List Dependency) (c' : Cache) : Prop where
  resolved : ∀ key, key ∈ c'.resolved ↔
    key ∈ c.resolved ∨ (c.holds key = false ∧ ∃ d ∈ ds, d.key = key)
  inFlight : ∀ key, key ∈ c'.inFlight ↔ key ∈ c.inFlight

theorem Run.mem_keys_takers_iff (run : Run w limit (.start c [ds]) trace s)
    (alone : s.calls = [call]) {found : List Document} (returned : call.control = .returned found)
    (key : String) :
    key ∈ (takers trace).map (·.2.key) ↔ c.holds key = false ∧ ∃ d ∈ ds, d.key = key := by
  obtain ⟨call', alone', tracked, -⟩ := run.isolated
  cases alone.symm.trans alone'
  rw [List.mem_map]
  constructor
  · intro h
    obtain ⟨e, taken, rfl⟩ := h
    obtain ⟨-, chosen⟩ := run.mem_takers_isolated taken
    exact ⟨(mem_pending_iff.mp chosen).1, e.2, mem_of_mem_pending chosen, rfl⟩
  · intro h
    obtain ⟨free, d, mem, rfl⟩ := h
    rcases holds_or_pending c mem with held | ⟨b, chosen, same⟩
    · rw [free] at held
      cases held
    · obtain ⟨_, history⟩ := tracked.history_of_pending returned chosen
      rcases history.taken_or_refused with took | refused
      · exact ⟨(0, b), mem_takers.mpr (mem_about.mp took).1, same⟩
      · exact absurd (mem_about.mp refused).1 (run.not_refused b)

theorem Run.extends_of_returned (run : Run w limit (.start c [ds]) trace s)
    (alone : s.calls = [call]) {found : List Document}
    (returned : call.control = .returned found) : c.Extends ds s.cache := by
  constructor <;> intro key
  · rw [← run.mem_keys_takers_iff alone returned]
    have count := run.balanced.resolved key
    rw [← List.count_pos_iff, ← List.count_pos_iff, ← List.count_pos_iff]
    omega
  · obtain ⟨call', alone', tracked, -⟩ := run.isolated
    cases alone.symm.trans alone'
    have none : s.running = [] := by
      rw [State.running, alone, List.flatMap_singleton]
      exact running_eq_nil_of_good (tracked.good_of_returned returned)
    have count := run.balanced.inFlight key
    rw [none, List.count_nil, Nat.zero_add] at count
    rw [← List.count_pos_iff, ← List.count_pos_iff, count]

theorem EndsIn.isolated {p : State → Prop} (total : w.Total)
    (last : ∀ trace s call, Run w limit (.start c [ds]) trace s → s.calls = [call] →
      call.control.isOver = true → p s) :
    EndsIn w limit p (.start c [ds]) := by
  apply EndsIn.of_isOver total
  intro trace s run finished
  obtain ⟨call, alone, -, -⟩ := run.isolated
  exact last trace s call run alone (finished call (by simp [alone]))

end AmbientTypes.Resolution
