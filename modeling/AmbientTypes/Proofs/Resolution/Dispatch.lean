import AmbientTypes.Proofs.Resolution.Accounting
import AmbientTypes.Proofs.Resolution.Outcome

namespace AmbientTypes.Resolution

def Action.asked? : Action → Option Dependency
  | asked d => some d
  | _ => none

/-- Whether a call has come to an end, though loaders may go on. -/
def Control.isOver : Control → Bool
  | returned _ | raised _ => true
  | idle _ | loading _ _ => false

variable {w : World} {limit : Nat} {c c' : Cache} {inputs : List (List Dependency)}
  {trace : Trace} {s : State} {ds : List Dependency} {actions more : List Action}
  {call call' : Call} {l l' : Loader} {d : Dependency} {outcome : Outcome}

namespace History

theorem ok_of_named (history : History w d (.ended outcome) actions) (named : d.name ≠ "") :
    ∃ found, outcome = .ok found := by
  cases history with
  | refused => exact ⟨[], rfl⟩
  | invalid nameless => exact absurd nameless named
  | ended past finished => exact finished.ok_of_named named

theorem taken_or_refused (history : History w d (.ended outcome) actions) :
    .took d ∈ actions ∨ .refused d ∈ actions := by
  cases history with
  | refused => exact .inr List.mem_cons_self
  | invalid => exact .inl List.mem_cons_self
  | ended past finished =>
    have held := past.holding_iff.mpr finished.isRunning
    exact .inl (List.mem_append_left _ held.1)

theorem ended_unique (history : History w d (.ended outcome) actions) {outcome' : Outcome}
    (mem : .ended d outcome' ∈ actions) : outcome' = outcome := by
  cases history with
  | refused => simpa using mem
  | invalid => simpa using mem
  | ended past finished =>
    rw [List.mem_append, List.mem_singleton] at mem
    rcases mem with early | last
    · exact absurd early ((past.holding_iff.mpr finished.isRunning).2 outcome')
    · exact (Action.ended.inj last).2

theorem of_not_took {stage : Stage} (history : History w d stage actions)
    (free : .took d ∉ actions) : actions = [] ∨ actions = [.refused d, .ended d (.ok [])] := by
  cases history with
  | waiting => exact .inl rfl
  | refused => exact .inr rfl
  | invalid => exact absurd List.mem_cons_self free
  | asked => exact absurd List.mem_cons_self free
  | askedFallback => exact absurd List.mem_cons_self free
  | ended past finished =>
    exact absurd (List.mem_append_left _ (past.holding_iff.mpr finished.isRunning).1) free

end History

namespace Tracked

theorem mem_of_mem_wave (tracked : Tracked w limit c ds actions call) (mem : l ∈ call.wave) :
    l.dependency ∈ ds := by
  cases tracked with
  | idle => simp at mem
  | nothing => simp at mem
  | badSize => simp at mem
  | @working done _ _ _ state =>
    exact mem_of_mem_pending (state.mem_pending (mem_flatten_of_mem_last done mem))

theorem returned_of_isOver (tracked : Tracked w limit c ds actions call) (positive : 1 ≤ limit)
    (named : ∀ d ∈ ds, d.name ≠ "") (finished : call.control.isOver = true) :
    ∃ found, call.control = .returned found := by
  cases tracked with
  | idle => cases finished
  | nothing => exact ⟨[], rfl⟩
  | badSize uncut =>
    rw [batch_of_one_le _ positive] at uncut
    cases uncut
  | @working done _ _ _ state =>
    have fits := state.fits
    cases control : call.control with
    | returned found => exact ⟨found, rfl⟩
    | raised e =>
      rw [control] at fits
      obtain ⟨d, mem⟩ := fits
      have loaded := mem_flatten_of_mem_last done mem
      have name := named d (mem_of_mem_pending (state.mem_pending loaded))
      obtain ⟨found, ok⟩ := (state.history _ loaded).ok_of_named name
      cases ok
    | idle => rw [control] at fits; exact fits.elim
    | loading => rw [control] at finished; cases finished

/-- The loaders of a call that has returned have ended, and the call gives their documents. -/
theorem loaders_of_returned (tracked : Tracked w limit c ds actions call) {found : List Document}
    (returned : call.control = .returned found) :
    ∃ loaders : List Loader, loaders.map Loader.dependency = pending c ds ∧
      found = loaders.flatMap (·.stage.documents) ∧
      ∀ l ∈ loaders, ∃ more, l.stage = .ended (.ok more) ∧
        History w l.dependency (.ended (.ok more)) (about l.dependency actions) := by
  cases tracked with
  | idle => cases returned
  | badSize => cases returned
  | nothing none =>
    cases returned
    exact ⟨[], none.symm, rfl, by simp⟩
  | @working done rest _ _ state =>
    have fits := state.fits
    rw [returned] at fits
    obtain ⟨goods, rfl, found_eq⟩ := fits
    have whole := state.dependencies
    rw [List.flatten_nil, List.append_nil] at whole
    refine ⟨_, whole, found_eq, ?_⟩
    intro l mem
    have history := state.history l mem
    have good : l.stage.isGood = true := by
      rw [List.flatten_append, List.mem_append] at mem
      rcases mem with early | last
      · exact state.good l early
      · exact goods l (by simpa using last)
    cases stage : l.stage with
    | ended outcome =>
      rw [stage] at history good
      cases outcome with
      | ok more => exact ⟨more, rfl, history⟩
      | error => cases good
    | _ =>
      rw [stage] at good
      cases good

theorem history_of_pending (tracked : Tracked w limit c ds actions call) {found : List Document}
    (returned : call.control = .returned found) (mem : d ∈ pending c ds) :
    ∃ more, History w d (.ended (.ok more)) (about d actions) := by
  obtain ⟨loaders, whole, -, each⟩ := tracked.loaders_of_returned returned
  rw [← whole, List.mem_map] at mem
  obtain ⟨l, lmem, rfl⟩ := mem
  obtain ⟨more, -, history⟩ := each l lmem
  exact ⟨more, history⟩

theorem found_eq (tracked : Tracked w limit c ds actions call) {found : List Document}
    (returned : call.control = .returned found) {contribution : Dependency → List Document}
    (each : ∀ d ∈ pending c ds, ∀ more, .ended d (.ok more) ∈ actions → more = contribution d) :
    found = (pending c ds).flatMap contribution := by
  obtain ⟨loaders, whole, rfl, histories⟩ := tracked.loaders_of_returned returned
  rw [← whole, List.flatMap_map]
  apply List.flatMap_congr
  intro l mem
  obtain ⟨more, stage, history⟩ := histories l mem
  have chosen : l.dependency ∈ pending c ds := whole ▸ List.mem_map_of_mem mem
  rw [stage]
  exact each _ chosen more (mem_about.mp history.mem_ended).1

theorem history_of_mem (tracked : Tracked w limit c ds actions call) {a : Action}
    (mem : a ∈ actions) (owner : a.dependency? = some d) :
    d ∈ pending c ds ∧ ∃ stage, History w d stage (about d actions) := by
  cases tracked with
  | idle => cases mem
  | nothing => simp at mem; rcases mem with rfl | rfl <;> cases owner
  | badSize => simp at mem; rcases mem with rfl | rfl <;> cases owner
  | working state =>
    obtain ⟨l, lmem, rfl⟩ := state.only a mem d owner
    exact ⟨state.mem_pending lmem, l.stage, state.history l lmem⟩

end Tracked

theorem Loader.Step.asked_eq (step : l.Step w c more c' l') (named : l.dependency.name ≠ "") :
    more.filterMap Action.asked? = taken more := by
  cases step with
  | invalid free nameless => exact absurd nameless named
  | _ => rfl

theorem Call.Step.asked_eq (step : call.Step w limit c more c' call')
    (named : ∀ l ∈ call.wave, l.dependency.name ≠ "") :
    more.filterMap Action.asked? = taken more := by
  cases step with
  | load step => exact step.asked_eq (named _ (by simp))
  | _ => rfl

/-- Who takes a key asks for the package, and nobody else does. -/
theorem Run.askers_eq (run : Run w limit (.start c inputs) trace s)
    (named : ∀ ds ∈ inputs, ∀ d ∈ ds, d.name ≠ "") :
    doers Action.asked? trace = takers trace := by
  induction run with
  | nil => rfl
  | snoc run step ih =>
    cases step with
    | @call _ _ before after call call' actions step =>
      obtain ⟨ds, input, _, tracked⟩ := run.tracked_at (getElem?_middle before call after)
      have names : ∀ l ∈ call.wave, l.dependency.name ≠ "" := fun l mem =>
        named ds (List.mem_of_getElem? input) _ (tracked.mem_of_mem_wave mem)
      rw [takers, doers_append, doers_append, doers_map, doers_map, step.asked_eq names, ih, taken]

theorem Run.taken_of_holds (run : Run w limit (.start c inputs) trace s) {key : String}
    (held : s.cache.holds key = true) :
    c.holds key = true ∨ ∃ e ∈ takers trace, e.2.key = key := by
  rw [Cache.holds_iff] at held ⊢
  rcases held with known | marked
  · have count := run.balanced.resolved key
    have positive := List.count_pos_iff.mpr known
    by_cases old : key ∈ c.resolved
    · exact .inl (.inl old)
    · rw [List.count_eq_zero_of_not_mem old] at count
      have mem : key ∈ (takers trace).map (·.2.key) := List.count_pos_iff.mp (by omega)
      exact .inr (List.mem_map.mp mem)
  · have count := run.balanced.inFlight key
    have positive := List.count_pos_iff.mpr marked
    by_cases old : key ∈ c.inFlight
    · exact .inl (.inr old)
    · rw [List.count_eq_zero_of_not_mem old] at count
      have mem : key ∈ s.running := List.count_pos_iff.mp (by omega)
      obtain ⟨e, held, same⟩ := run.mem_running_iff.mp mem
      exact .inr ⟨e, (List.mem_filter.mp held).1, same⟩

theorem Call.Step.holds_of_refused (step : call.Step w limit c more c' call')
    (mem : .refused d ∈ more) : c.holds d.key = true := by
  cases step with
  | load step =>
    cases step with
    | refused held =>
      rw [List.mem_pair] at mem
      rcases mem with same | other
      · rw [Action.refused.inj same]
        exact Cache.acquire?_eq_none_iff.mp held
      · cases other
    | _ => simp at mem
  | _ => simp at mem

/-- Where a loader is refused, another one has taken the key, or the cache has held it before. -/
theorem Run.taken_of_refused (run : Run w limit (.start c inputs) trace s) {i : Nat}
    (mem : .refused d ∈ own i trace) :
    c.holds d.key = true ∨ ∃ e ∈ takers trace, e.2.key = d.key := by
  obtain ⟨before, after, split⟩ := List.append_of_mem (mem_own.mp mem)
  obtain ⟨earlier, _, _, _, _, _, _, head, tail, past, -, step, rfl⟩ := run.located split
  have held := step.holds_of_refused (List.mem_append_right _ List.mem_cons_self)
  refine (past.taken_of_holds held).imp id ?_
  intro h
  obtain ⟨e, taken, same⟩ := h
  refine ⟨e, ?_, same⟩
  rw [split, List.append_assoc, takers, doers_append]
  exact List.mem_append_left _ taken

/-- When a call has returned, each of its keys has been taken by some loader. -/
theorem Run.taken_of_mem (run : Run w limit (.start .empty inputs) trace s) {i : Nat}
    {found : List Document} (current : s.calls[i]? = some call)
    (returned : call.control = .returned found) (input : inputs[i]? = some ds) (mem : d ∈ ds) :
    ∃ e ∈ takers trace, e.2.key = d.key := by
  obtain ⟨_, input', _, tracked⟩ := run.tracked_at current
  cases input.symm.trans input'
  obtain ⟨before, after, split⟩ := List.append_of_mem (mem_own.mp (tracked.cutInto returned).1)
  obtain ⟨now, _, past, input', equal⟩ := run.chose split
  cases input.symm.trans input'
  rcases holds_or_pending now.cache mem with held | ⟨b, chosen, same⟩
  · rcases past.taken_of_holds held with impossible | ⟨e, taken, same⟩
    · cases impossible
    · refine ⟨e, ?_, same⟩
      rw [split, takers, doers_append]
      exact List.mem_append_left _ taken
  · rw [← equal] at chosen
    rw [← same]
    obtain ⟨_, history⟩ := tracked.history_of_pending returned chosen
    rcases history.taken_or_refused with took | refused
    · exact ⟨(i, b), mem_takers.mpr (mem_about.mp took).1, rfl⟩
    · rcases run.taken_of_refused (mem_about.mp refused).1 with impossible | taken
      · cases impossible
      · exact taken

theorem filter_eq_singleton {α β : Type} [DecidableEq β] {f : α → β} {xs : List α} {x : α}
    (distinct : (xs.map f).Nodup) (mem : x ∈ xs) : xs.filter (f · = f x) = [x] := by
  induction xs with
  | nil => cases mem
  | cons y xs ih =>
    rw [List.map_cons, List.nodup_cons, List.mem_map] at distinct
    rcases List.mem_cons.mp mem with rfl | later
    · have others : xs.filter (f · = f x) = [] := by
        rw [List.filter_eq_nil_iff]
        intro z zmem same
        exact distinct.1 ⟨z, zmem, of_decide_eq_true same⟩
      rw [List.filter_cons_of_pos (by simp), others]
    · have differ : f y ≠ f x := fun same => distinct.1 ⟨x, later, same.symm⟩
      rw [List.filter_cons_of_neg (by simpa using differ), ih distinct.2 later]

/-- What a trace does about a key: one loader takes it, asks, and ends with documents; it is the
first with this key in its call. All others with the key are refused. -/
structure Dispatched (w : World) (inputs : List (List Dependency)) (trace : Trace) (key : String)
    (owner : Nat × Dependency) (found : List Document) : Prop where
  taken : (takers trace).filter (·.2.key = key) = [owner]
  asked : (doers Action.asked? trace).filter (·.2.key = key) = [owner]
  first : ∃ ds, inputs[owner.1]? = some ds ∧ ds.find? (·.key = key) = some owner.2
  history : History w owner.2 (.ended (.ok found)) (about owner.2 (own owner.1 trace))
  others : ∀ i d a, (i, a) ∈ trace → a.dependency? = some d → d.key = key → (i, d) ≠ owner →
    a = .refused d ∨ a = .ended d (.ok [])

theorem Dispatched.mem_takers {key : String} {owner : Nat × Dependency} {found : List Document}
    (dispatched : Dispatched w inputs trace key owner found) :
    owner ∈ takers trace ∧ owner.2.key = key := by
  have mem : owner ∈ (takers trace).filter (·.2.key = key) := by
    rw [dispatched.taken]
    exact List.mem_cons_self
  obtain ⟨taken, same⟩ := List.mem_filter.mp mem
  exact ⟨taken, of_decide_eq_true same⟩

theorem Run.returned (run : Run w limit (.start c inputs) trace s) (positive : 1 ≤ limit)
    (named : ∀ ds ∈ inputs, ∀ d ∈ ds, d.name ≠ "")
    (finished : ∀ call ∈ s.calls, call.control.isOver = true) {i : Nat}
    (current : s.calls[i]? = some call) : ∃ found, call.control = .returned found := by
  obtain ⟨ds, input, _, tracked⟩ := run.tracked_at current
  exact tracked.returned_of_isOver positive (named ds (List.mem_of_getElem? input))
    (finished call (List.mem_of_getElem? current))

theorem Run.dispatched (run : Run w limit (.start .empty inputs) trace s) (positive : 1 ≤ limit)
    (named : ∀ ds ∈ inputs, ∀ d ∈ ds, d.name ≠ "")
    (finished : ∀ call ∈ s.calls, call.control.isOver = true) (input : ds ∈ inputs) (mem : d ∈ ds) :
    ∃ owner found, Dispatched w inputs trace d.key owner found := by
  obtain ⟨i, input⟩ := List.mem_iff_getElem?.mp input
  have known := (List.getElem?_eq_some_iff.mp input).1
  have current := List.getElem?_eq_getElem (run.tracked.1 ▸ known)
  obtain ⟨_, returned⟩ := run.returned positive named finished current
  obtain ⟨⟨j, e⟩, taken, same⟩ := run.taken_of_mem current returned input mem
  have once : (takers trace).filter (·.2.key = d.key) = [(j, e)] := by
    rw [← same]
    exact filter_eq_singleton (keys_takers_nodup run.balanced) taken
  -- the loader that has taken the key has ended, since its call has returned
  have took := mem_takers.mp taken
  obtain ⟨call', current'⟩ := run.call_of_mem (mem_own.mp took)
  obtain ⟨ds', input', _, tracked⟩ := run.tracked_at current'
  obtain ⟨_, returned'⟩ := run.returned positive named finished current'
  obtain ⟨chosen, _⟩ := tracked.history_of_mem took rfl
  obtain ⟨found, history⟩ := tracked.history_of_pending returned' chosen
  refine ⟨(j, e), found, once, ?_, ⟨ds', input', ?_⟩, history, ?_⟩
  · rw [run.askers_eq named, once]
  · rw [← same]
    exact (mem_pending_iff.mp chosen).2
  · intro k b a amem owner key differ
    obtain ⟨_, currentk⟩ := run.call_of_mem amem
    obtain ⟨_, _, _, trackedk⟩ := run.tracked_at currentk
    obtain ⟨-, stage, historyk⟩ := trackedk.history_of_mem (mem_own.mpr amem) owner
    have free : .took b ∉ about b (own k trace) := by
      intro tookb
      have mem : (k, b) ∈ (takers trace).filter (·.2.key = d.key) :=
        List.mem_filter.mpr ⟨mem_takers.mpr (mem_about.mp tookb).1, decide_eq_true key⟩
      rw [once] at mem
      exact differ (List.mem_singleton.mp mem)
    have amem' : a ∈ about b (own k trace) := mem_about.mpr ⟨mem_own.mpr amem, owner⟩
    rcases historyk.of_not_took free with none | refused
    · rw [none] at amem'
      cases amem'
    · rw [refused] at amem'
      exact List.mem_pair.mp amem'

/-- What a dispatched key gives to a call: its documents to that of the owner, nothing to others. -/
theorem Dispatched.contribution_eq {i : Nat} {owner : Nat × Dependency}
    {found more : List Document} (dispatched : Dispatched w inputs trace d.key owner found)
    (input : inputs[i]? = some ds) (first : ds.find? (·.key = d.key) = some d)
    (ended : .ended d (.ok more) ∈ own i trace) :
    more = if owner.1 = i then found else [] := by
  by_cases mine : (i, d) = owner
  · subst mine
    rw [if_pos rfl]
    have unique := dispatched.history.ended_unique (mem_about.mpr ⟨ended, rfl⟩)
    exact Except.ok.inj unique
  · have other : owner.1 ≠ i := by
      intro same
      subst same
      obtain ⟨ds', input', first'⟩ := dispatched.first
      cases input.symm.trans input'
      have same : d = owner.2 := Option.some.inj (first.symm.trans first')
      exact mine (by rw [same])
    rw [if_neg other]
    rcases dispatched.others i d _ (mem_own.mp ended) rfl rfl mine with refused | none
    · cases refused
    · exact Except.ok.inj (Action.ended.inj none).2

/-- However calls with a fresh cache interleave, each key is taken and asked for by one loader, and
when all calls are over, the documents of the key are at the place of its dependency in the result
of one call. All other places and calls give nothing for the key and ask nobody, whatever became
of the load. -/
theorem Run.dispatched_once (run : Run w limit (.start .empty inputs) trace s)
    (positive : 1 ≤ limit) (named : ∀ ds ∈ inputs, ∀ d ∈ ds, d.name ≠ "")
    (finished : ∀ call ∈ s.calls, call.control.isOver = true) :
    ∃ (owner : String → Nat × Dependency) (found : String → List Document),
      (∀ ds ∈ inputs, ∀ d ∈ ds, Dispatched w inputs trace d.key (owner d.key) (found d.key)) ∧
      s.calls.map (·.control) = inputs.mapIdx fun i ds =>
        .returned (placed (fun d => if (owner d.key).1 = i then found d.key else []) ds) := by
  have each : ∀ key, ∃ owner found, (∃ ds ∈ inputs, ∃ d ∈ ds, d.key = key) →
      Dispatched w inputs trace key owner found := by
    intro key
    by_cases occurs : ∃ ds ∈ inputs, ∃ d ∈ ds, d.key = key
    · obtain ⟨ds, input, d, mem, rfl⟩ := occurs
      obtain ⟨owner, found, dispatched⟩ := run.dispatched positive named finished input mem
      exact ⟨owner, found, fun _ => dispatched⟩
    · exact ⟨default, [], fun occurs' => absurd occurs' occurs⟩
  choose owner found dispatched using each
  refine ⟨owner, found, fun ds input d mem => dispatched _ ⟨ds, input, d, mem, rfl⟩, ?_⟩
  refine List.ext_getElem (by simp [run.tracked.1]) fun i hcall hinput => ?_
  rw [List.length_map] at hcall
  rw [List.length_mapIdx] at hinput
  rw [List.getElem_map, List.getElem_mapIdx]
  have current := List.getElem?_eq_getElem hcall
  have input := List.getElem?_eq_getElem hinput
  obtain ⟨ds, input', c₀, tracked⟩ := run.tracked_at current
  cases input.symm.trans input'
  have occurs : ∀ d ∈ inputs[i], Dispatched w inputs trace d.key (owner d.key) (found d.key) :=
    fun d mem => dispatched _ ⟨_, List.getElem_mem hinput, d, mem, rfl⟩
  obtain ⟨given, returned⟩ := run.returned positive named finished current
  have given_eq : given = (pending c₀ inputs[i]).flatMap fun d =>
      if (owner d.key).1 = i then found d.key else [] := by
    apply tracked.found_eq returned
    intro d mem more ended
    exact (occurs d (mem_of_mem_pending mem)).contribution_eq input (mem_pending_iff.mp mem).2 ended
  rw [returned, given_eq, flatMap_pending]
  intro d mem held
  -- the owner of a held key belongs to another call, as its own call has chosen the key
  have other : (owner d.key).1 ≠ i := by
    intro mine
    obtain ⟨taken, same⟩ := (occurs d mem).mem_takers
    have took : .took (owner d.key).2 ∈ own i trace := mine ▸ mem_takers.mp taken
    obtain ⟨chosen, _⟩ := tracked.history_of_mem took rfl
    have free := (mem_pending_iff.mp chosen).1
    rw [same, held] at free
    cases free
  exact if_neg other

/-- Both calls have chosen the package before the first one took it, and both have returned. -/
theorem plain_run_returned : ∃ trace s,
    Run plainWorld 1 (.start .empty [[plainPackage], [plainPackage]]) trace s ∧
      ∀ call ∈ s.calls, call.control.isOver = true := by
  obtain ⟨trace, run⟩ := plain_run_asked
  obtain ⟨found, ok⟩ :
      ∃ found, conclude plainPackage (.ok ⟨"", [⟨"index.d.ts", []⟩]⟩) = .ok found :=
    conclude_ok (by decide) (by simp)
  have finished : Concludes plainWorld plainPackage .asked (.ok found) := ok ▸ .replied rfl rfl
  have held : loadingCache.acquire? plainPackage.key = none := by decide
  have refused := @State.Step.call plainWorld 1 _ _
    [⟨.loading [] [], [⟨plainPackage, .asked⟩]⟩] [] _ _ _
    (@Call.Step.load plainWorld 1 _ _ (.loading [] []) [] [] _ _ _ (.refused held))
  have ended := @State.Step.call plainWorld 1 loadingCache _ []
    [⟨.loading [] [], [⟨plainPackage, .ended (.ok [])⟩]⟩] _ _ _
    (@Call.Step.load plainWorld 1 _ _ (.loading [] []) [] [] _ _ _ (.ended finished))
  have good : gather [.ok found] = .ok found := congrArg Except.ok (List.append_nil found)
  have returned := @State.Step.call plainWorld 1 _ _ []
    [⟨.loading [] [], [⟨plainPackage, .ended (.ok [])⟩]⟩] _ _ _
    (@Call.Step.finish plainWorld 1 (loadingCache.clearInFlight plainPackage.key) [] _
      [⟨plainPackage, .ended (.ok found)⟩] [.ok found] rfl good)
  have returned' := @State.Step.call plainWorld 1 _ _
    [⟨.returned ([] ++ found), [⟨plainPackage, .ended (.ok found)⟩]⟩] [] _ _ _
    (@Call.Step.finish plainWorld 1 (loadingCache.clearInFlight plainPackage.key) [] _
      [⟨plainPackage, .ended (.ok [])⟩] [.ok []] rfl rfl)
  refine ⟨_, _, (((run.snoc refused).snoc ended).snoc returned).snoc returned', ?_⟩
  simp [Control.isOver]

theorem dispatched_once_of_plain : ∃ trace s owner found,
    Run plainWorld 1 (.start .empty [[plainPackage], [plainPackage]]) trace s ∧
      Dispatched plainWorld [[plainPackage], [plainPackage]] trace plainPackage.key owner
        found := by
  obtain ⟨trace, s, run, finished⟩ := plain_run_returned
  obtain ⟨owner, found, dispatched, -⟩ := run.dispatched_once (Nat.le_refl 1) (by decide) finished
  exact ⟨trace, s, _, _, run, dispatched [plainPackage] (by simp) plainPackage (by simp)⟩

end AmbientTypes.Resolution
