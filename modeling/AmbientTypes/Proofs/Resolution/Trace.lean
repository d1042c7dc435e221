import AmbientTypes.Proofs.Resolution.Tracking

namespace AmbientTypes.Resolution

def own (i : Nat) (trace : Trace) : List Action :=
  trace.filterMap fun e => if e.1 = i then some e.2 else none

theorem own_append (i : Nat) (trace more : Trace) :
    own i (trace ++ more) = own i trace ++ own i more := List.filterMap_append

theorem own_map_self (i : Nat) (actions : List Action) :
    own i (actions.map fun a => (i, a)) = actions := by
  simp [own, List.filterMap_map]

theorem own_map_other {i j : Nat} (other : j ≠ i) (actions : List Action) :
    own i (actions.map fun a => (j, a)) = [] := by
  simp [own, List.filterMap_map, other]

theorem mem_own {i : Nat} {trace : Trace} {a : Action} :
    a ∈ own i trace ↔ (i, a) ∈ trace := by
  simp [own]

/-- The loaders that have done an action of a kind, in order, each by the number of its call and by
its dependency. -/
def doers (kind : Action → Option Dependency) (trace : Trace) : List (Nat × Dependency) :=
  trace.filterMap fun e => (kind e.2).map fun d => (e.1, d)

theorem doers_append (kind : Action → Option Dependency) (trace more : Trace) :
    doers kind (trace ++ more) = doers kind trace ++ doers kind more := List.filterMap_append

theorem doers_map (kind : Action → Option Dependency) (i : Nat) (actions : List Action) :
    doers kind (actions.map fun a => (i, a)) =
      (actions.filterMap kind).map fun d => (i, d) := by
  simp [doers, List.filterMap_map, List.map_filterMap]

theorem mem_doers {kind : Action → Option Dependency} {trace : Trace} {i : Nat} {d : Dependency} :
    (i, d) ∈ doers kind trace ↔ ∃ a, (i, a) ∈ trace ∧ kind a = some d := by
  simp only [doers, List.mem_filterMap, Option.map_eq_some_iff, Prod.mk.injEq, Prod.exists]
  constructor
  · intro h
    obtain ⟨j, a, mem, e, done, rfl, rfl⟩ := h
    exact ⟨a, mem, done⟩
  · intro h
    obtain ⟨a, mem, done⟩ := h
    exact ⟨i, a, mem, d, done, rfl, rfl⟩

abbrev takers (trace : Trace) : List (Nat × Dependency) := doers Action.took? trace

/-- Who has taken a key and has not ended the load. -/
def holders (trace : Trace) : List (Nat × Dependency) :=
  (takers trace).filter fun e => e ∉ doers Action.ended? trace

theorem mem_takers {trace : Trace} {i : Nat} {d : Dependency} :
    (i, d) ∈ takers trace ↔ .took d ∈ own i trace := by
  rw [mem_doers, mem_own]
  constructor
  · intro h
    obtain ⟨a, mem, took⟩ := h
    cases a <;> cases took
    exact mem
  · exact fun mem => ⟨.took d, mem, rfl⟩

theorem mem_holders {trace : Trace} {i : Nat} {d : Dependency} :
    (i, d) ∈ holders trace ↔
      .took d ∈ own i trace ∧ ∀ outcome, .ended d outcome ∉ own i trace := by
  rw [holders, List.mem_filter, mem_takers, decide_eq_true_iff, mem_doers]
  refine and_congr_right fun _ => ⟨?_, ?_⟩
  · exact fun none outcome mem => none ⟨_, mem_own.mp mem, rfl⟩
  · intro none h
    obtain ⟨a, mem, ended⟩ := h
    cases a <;> cases ended
    exact none _ (mem_own.mpr mem)

theorem getElem?_middle {α : Type} (before : List α) (x : α) (after : List α) :
    (before ++ x :: after)[before.length]? = some x := by simp

theorem getElem?_beside {α : Type} {before : List α} {i : Nat} (other : before.length ≠ i)
    (x y : α) (after : List α) : (before ++ x :: after)[i]? = (before ++ y :: after)[i]? := by
  simp only [List.getElem?_append, List.getElem?_cons]
  split
  · rfl
  · have later : i - before.length ≠ 0 := by omega
    rw [if_neg later, if_neg later]

variable {w : World} {limit : Nat} {c c' : Cache} {inputs : List (List Dependency)}
  {trace : Trace} {s : State} {ds : List Dependency} {actions more : List Action}
  {call call' : Call} {done : List (List Loader)} {rest : List (List Dependency)}

theorem Tracked.eq_of_idle {ds' : List Dependency} (tracked : Tracked w limit c ds actions call)
    (idle : call.control = .idle ds') : ds' = ds ∧ actions = [] ∧ call = ⟨.idle ds, []⟩ := by
  cases tracked with
  | idle => exact ⟨(Control.idle.inj idle).symm, rfl, rfl⟩
  | nothing => cases idle
  | badSize => cases idle
  | working state =>
    have fits := state.fits
    rw [idle] at fits
    exact fits.elim

theorem Call.Step.tracked (step : call.Step w limit c more c' call')
    (tracked : ∃ c₀, Tracked w limit c₀ ds actions call) :
    ∃ c₀, Tracked w limit c₀ ds (actions ++ more) call' := by
  obtain ⟨c₀, tracked⟩ := tracked
  by_cases idle : ∃ ds', call.control = .idle ds'
  · obtain ⟨ds', idle⟩ := idle
    obtain ⟨-, rfl, rfl⟩ := tracked.eq_of_idle idle
    have tracked' : Tracked w limit c ds [] ⟨.idle ds, []⟩ := .idle
    exact ⟨c, tracked'.step (fun _ _ => rfl) step⟩
  · exact ⟨c₀, tracked.step (fun ds' equal => absurd ⟨ds', equal⟩ idle) step⟩

/-- Each call is tracked by a cache and its own actions. -/
def AllTracked (w : World) (limit : Nat) (inputs : List (List Dependency)) (trace : Trace)
    (s : State) : Prop :=
  s.calls.length = inputs.length ∧ ∀ i ds call, inputs[i]? = some ds → s.calls[i]? = some call →
    ∃ c₀, Tracked w limit c₀ ds (own i trace) call

theorem allTracked_start (w : World) (limit : Nat) (c : Cache) (inputs : List (List Dependency)) :
    AllTracked w limit inputs [] (.start c inputs) := by
  refine ⟨by simp [State.start], ?_⟩
  intro i ds call input current
  rw [State.start, List.getElem?_map, input] at current
  cases current
  exact ⟨c, .idle⟩

theorem State.Step.allTracked {done : Trace} {s' : State} (step : State.Step w limit s done s')
    (all : AllTracked w limit inputs trace s) : AllTracked w limit inputs (trace ++ done) s' := by
  obtain ⟨lengths, each⟩ := all
  cases step with
  | @call _ _ before after call call' actions step =>
    refine ⟨by simpa using lengths, ?_⟩
    intro i ds k input current
    rw [own_append]
    -- the call that steps goes on in its own actions, and the others are as they were
    by_cases mine : before.length = i
    · subst mine
      rw [own_map_self]
      have old : (before ++ call :: after)[before.length]? = some call := by simp
      have new : k = call' := by simpa using current.symm
      rw [new]
      exact step.tracked (each _ ds call input old)
    · rw [own_map_other mine, List.append_nil]
      exact each i ds k input ((getElem?_beside mine call call' after).trans current)

theorem AllTracked.at (all : AllTracked w limit inputs trace s) {i : Nat}
    (current : s.calls[i]? = some call) :
    ∃ ds, inputs[i]? = some ds ∧ ∃ c₀, Tracked w limit c₀ ds (own i trace) call := by
  obtain ⟨lengths, tracked⟩ := all
  have known := (List.getElem?_eq_some_iff.mp current).1
  have input := List.getElem?_eq_getElem (lengths ▸ known)
  exact ⟨_, input, tracked i _ call input current⟩

/-- In every reachable state each call is tracked by a cache and its own actions. -/
theorem Run.tracked (run : Run w limit (.start c inputs) trace s) :
    s.calls.length = inputs.length ∧ ∀ i ds call, inputs[i]? = some ds → s.calls[i]? = some call →
      ∃ c₀, Tracked w limit c₀ ds (own i trace) call := by
  induction run with
  | nil => exact allTracked_start w limit c inputs
  | snoc run step ih => exact step.allTracked ih

/-- The dependency whose loader starts by an action: it passes the gate or is refused. -/
def Action.starts? : Action → Option Dependency
  | took d | refused d => some d
  | _ => none

/-- Each loader starts in the last wave that its call has begun, and all loaders of the waves before
have ended then. -/
def WavesInOrder (trace : Trace) : Prop :=
  ∀ before i a after d, trace = before ++ (i, a) :: after → a.starts? = some d →
    (∃ wave, (begun (own i before)).getLast? = some wave ∧ d ∈ wave) ∧
    ∀ wave ∈ (begun (own i before)).dropLast, ∀ e ∈ wave, ∃ outcome,
      (i, .ended e outcome) ∈ before

theorem first_of_split {x y a : Action} {before after : List Action}
    (split : [x, y] = before ++ a :: after) (other : a ≠ y) : before = [] ∧ a = x := by
  cases before with
  | nil => exact ⟨rfl, (List.cons.inj split).1.symm⟩
  | cons b before =>
    have tail := (List.cons.inj split).2
    cases before with
    | nil => exact absurd (List.cons.inj tail).1.symm other
    | cons => simp at tail

theorem Loader.Step.starts {l l' : Loader} (step : l.Step w c more c' l')
    {before after : List Action} {a : Action} {d : Dependency} (split : more = before ++ a :: after)
    (start : a.starts? = some d) : before = [] ∧ d = l.dependency := by
  have other : ∀ {x : Action}, x.starts? = none → a ≠ x := by
    intro x quiet same
    subst same
    exact absurd (quiet.symm.trans start) (by simp)
  have lone : ∀ {x : Action}, x.starts? = none → [x] ≠ before ++ a :: after := by
    intro x quiet equal
    have mem : a ∈ [x] := equal ▸ List.mem_append_right _ List.mem_cons_self
    exact other quiet (List.mem_singleton.mp mem)
  cases step with
  | refused =>
    obtain ⟨first, rfl⟩ := first_of_split split (other rfl)
    exact ⟨first, (Option.some.inj start).symm⟩
  | invalid =>
    obtain ⟨first, rfl⟩ := first_of_split split (other rfl)
    exact ⟨first, (Option.some.inj start).symm⟩
  | asked =>
    obtain ⟨first, rfl⟩ := first_of_split split (other rfl)
    exact ⟨first, (Option.some.inj start).symm⟩
  | askedFallback => exact absurd split (lone rfl)
  | ended => exact absurd split (lone rfl)

/-- Only a loader of the last wave starts in a step of a call, by its first action. -/
theorem Call.Step.starts (step : call.Step w limit c more c' call') {before after : List Action}
    {a : Action} {d : Dependency} (split : more = before ++ a :: after)
    (start : a.starts? = some d) : before = [] ∧ ∃ l ∈ call.wave, l.dependency = d := by
  have noisy : ¬ ∀ b ∈ more, b.starts? = none := by
    intro quiet
    have none := quiet a (split ▸ List.mem_append_right _ List.mem_cons_self)
    exact absurd (start.symm.trans none) (by simp)
  cases step with
  | load step =>
    obtain ⟨first, same⟩ := step.starts split start
    exact ⟨first, _, by simp, same.symm⟩
  | _ => exact absurd (by simp [Action.starts?]) noisy

theorem History.mem_ended {d : Dependency} {outcome : Outcome}
    (history : History w d (.ended outcome) actions) : .ended d outcome ∈ actions := by
  cases history <;> simp

theorem Tracked.starts (tracked : Tracked w limit c ds actions call) {l : Loader}
    (mem : l ∈ call.wave) :
    (∃ wave, (begun actions).getLast? = some wave ∧ l.dependency ∈ wave) ∧
    ∀ wave ∈ (begun actions).dropLast, ∀ e ∈ wave, ∃ outcome, .ended e outcome ∈ actions := by
  cases tracked with
  | idle => simp at mem
  | nothing => simp at mem
  | badSize => simp at mem
  | @working done rest _ _ state =>
    rw [state.begun, List.map_append, List.map_singleton]
    constructor
    · exact ⟨_, List.getLast?_concat, List.mem_map.mpr ⟨l, mem, rfl⟩⟩
    · intro wave wmem e emem
      rw [List.dropLast_concat, List.mem_map] at wmem
      obtain ⟨loaders, lmem, rfl⟩ := wmem
      obtain ⟨k, kmem, rfl⟩ := List.mem_map.mp emem
      have finished : k ∈ done.flatten := List.mem_flatten.mpr ⟨loaders, lmem, kmem⟩
      have good := state.good k finished
      have history := state.history k (by simp [finished])
      cases stage : k.stage with
      | ended outcome =>
        rw [stage] at history
        exact ⟨outcome, (mem_about.mp history.mem_ended).1⟩
      | _ => simp [stage, Stage.isGood] at good

/-- An action of a run is done by a step of its call, and what comes before it in this step belongs
to this call. -/
theorem Run.located {start : State} (run : Run w limit start trace s)
    {before after : Trace} {i : Nat} {a : Action} (split : trace = before ++ (i, a) :: after) :
    ∃ earlier c c' left right call call' head tail,
      Run w limit start earlier ⟨c, left ++ call :: right⟩ ∧ left.length = i ∧
      Call.Step w limit c call (head ++ a :: tail) c' call' ∧
      before = earlier ++ head.map fun b => (i, b) := by
  induction run generalizing after with
  | nil => simp at split
  | @snoc trace done s' s'' run step ih =>
    -- the action lies in the steps before, or in the last one
    have located : (∃ mid, trace = before ++ (i, a) :: mid) ∨
        ∃ mid, before = trace ++ mid ∧ done = mid ++ (i, a) :: after := by
      rcases List.append_eq_append_iff.mp split with ⟨mid, left, right⟩ | ⟨mid, left, right⟩
      · exact .inr ⟨mid, left, right⟩
      · cases mid with
        | nil => exact .inr ⟨[], by simpa using left.symm, right.symm⟩
        | cons e mid =>
          obtain ⟨rfl, -⟩ := List.cons.inj right
          exact .inl ⟨mid, left⟩
    rcases located with ⟨mid, earlier⟩ | ⟨mid, last, now⟩
    · exact ih earlier
    · cases step with
      | @call _ _ left right call call' actions step =>
        obtain ⟨head, tail, rfl, rfl, tail_eq⟩ := List.map_eq_append_iff.mp now
        obtain ⟨b, tail, rfl, same, -⟩ := List.map_eq_cons_iff.mp tail_eq
        obtain ⟨rfl, rfl⟩ := Prod.mk.inj same
        exact ⟨trace, _, _, left, right, call, call', head, tail, run, rfl, step, last⟩

theorem Run.tracked_at (run : Run w limit (.start c inputs) trace s) {i : Nat}
    (current : s.calls[i]? = some call) :
    ∃ ds, inputs[i]? = some ds ∧ ∃ c₀, Tracked w limit c₀ ds (own i trace) call :=
  AllTracked.at run.tracked current

theorem Run.call_of_mem (run : Run w limit (.start c inputs) trace s) {i : Nat} {a : Action}
    (mem : (i, a) ∈ trace) : ∃ call, s.calls[i]? = some call := by
  obtain ⟨before, after, split⟩ := List.append_of_mem mem
  obtain ⟨_, _, _, left, right, call, _, _, _, past, rfl, _, _⟩ := run.located split
  have known : left.length < s.calls.length := by
    rw [run.tracked.1, ← past.tracked.1]
    simp
  exact ⟨_, List.getElem?_eq_getElem known⟩

theorem Run.wavesInOrder (run : Run w limit (.start c inputs) trace s) : WavesInOrder trace := by
  intro before i a after d split start
  obtain ⟨earlier, _, _, left, right, call, _, head, tail, past, rfl, step, rfl⟩ :=
    run.located split
  obtain ⟨rfl, l, mem, rfl⟩ := step.starts rfl start
  obtain ⟨ds, -, c₀, tracked⟩ := past.tracked_at (getElem?_middle left call right)
  obtain ⟨member, finished⟩ := tracked.starts mem
  rw [List.map_nil, List.append_nil]
  refine ⟨member, ?_⟩
  intro wave wmem e emem
  obtain ⟨outcome, ended⟩ := finished wave wmem e emem
  exact ⟨outcome, mem_own.mp ended⟩

theorem Call.Step.chooses (step : call.Step w limit c more c' call') {before after : List Action}
    {chosen : List Dependency} (split : more = before ++ .chose chosen :: after) :
    before = [] ∧ ∃ ds, call.control = .idle ds ∧ chosen = pending c ds := by
  have mem : .chose chosen ∈ more := split ▸ List.mem_append_right _ List.mem_cons_self
  cases step with
  | nothing none =>
    obtain ⟨first, same⟩ := first_of_split split Action.noConfusion
    exact ⟨first, _, rfl, (Action.chose.inj same).trans none.symm⟩
  | chose =>
    obtain ⟨first, same⟩ := first_of_split split Action.noConfusion
    exact ⟨first, _, rfl, Action.chose.inj same⟩
  | badSize =>
    obtain ⟨first, same⟩ := first_of_split split Action.noConfusion
    exact ⟨first, _, rfl, Action.chose.inj same⟩
  | load step => exact absurd (step.dependency?_eq mem) (by simp [Action.dependency?])
  | next => simp at mem
  | finish => simp at mem
  | raise => simp at mem

/-- A call chooses what is pending by the cache at that moment. -/
theorem Run.chose (run : Run w limit (.start c inputs) trace s) {before after : Trace} {i : Nat}
    {chosen : List Dependency} (split : trace = before ++ (i, .chose chosen) :: after) :
    ∃ now ds, Run w limit (.start c inputs) before now ∧ inputs[i]? = some ds ∧
      chosen = pending now.cache ds := by
  obtain ⟨earlier, _, _, left, right, call, _, head, tail, past, rfl, step, rfl⟩ :=
    run.located split
  obtain ⟨rfl, ds', idle, chosen_eq⟩ := step.chooses rfl
  obtain ⟨ds, input, _, tracked⟩ := past.tracked_at (getElem?_middle left call right)
  obtain rfl := (tracked.eq_of_idle idle).1
  rw [List.map_nil, List.append_nil]
  exact ⟨_, ds', past, input, chosen_eq⟩

end AmbientTypes.Resolution
