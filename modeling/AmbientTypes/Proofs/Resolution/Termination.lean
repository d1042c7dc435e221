import AmbientTypes.Proofs.Resolution.Dispatch

namespace AmbientTypes.Resolution

/-- How many steps a loader may still take. -/
def Stage.rank : Stage → Nat
  | waiting => 3
  | asked => 2
  | askedFallback => 1
  | ended _ => 0

/-- What a control may still begin; a wave counts for its beginning and for its loaders. -/
def Control.work : Control → Nat
  | idle ds => 2 + 4 * ds.length
  | loading _ rest => 1 + (rest.length + 3 * rest.flatten.length)
  | returned _ | raised _ => 0

def total {α : Type} (measure : α → Nat) : List α → Nat
  | [] => 0
  | x :: xs => measure x + total measure xs

def Call.work (call : Call) : Nat := call.control.work + total (fun l => l.stage.rank) call.wave

def State.work (s : State) : Nat := total Call.work s.calls

/-- Every question is answered. -/
def World.Total (w : World) : Prop :=
  ∀ kind name version, ∃ reply, w.replies kind name version reply

variable {w : World} {limit : Nat} {c c' c₀ : Cache} {inputs : List (List Dependency)}
  {trace : Trace} {s s' : State} {ds : List Dependency} {actions more : List Action}
  {call call' : Call} {l l' : Loader}

theorem Stage.rank_pos_of_isRunning {stage : Stage} (running : stage.isRunning = true) :
    0 < stage.rank := by
  cases stage with
  | asked => exact Nat.succ_pos 1
  | askedFallback => exact Nat.succ_pos 0
  | _ => cases running

theorem Loader.Step.rank_lt (step : l.Step w c more c' l') : l'.stage.rank < l.stage.rank := by
  cases step with
  | refused => exact Nat.succ_pos 2
  | invalid => exact Nat.succ_pos 2
  | asked => exact Nat.lt_succ_self 2
  | askedFallback => exact Nat.lt_succ_self 1
  | ended finished => exact Stage.rank_pos_of_isRunning finished.isRunning

theorem total_middle {α : Type} (measure : α → Nat) (before : List α) (x : α) (after : List α) :
    total measure (before ++ x :: after) =
      total measure before + measure x + total measure after := by
  induction before with
  | nil => simp [total]
  | cons y before ih =>
    rw [List.cons_append, total, ih, total]
    omega

theorem ranks_fresh (ds : List Dependency) :
    total (fun l => l.stage.rank) (fresh ds) = 3 * ds.length := by
  induction ds with
  | nil => rfl
  | cons d ds ih =>
    have first : total (fun l => l.stage.rank) (fresh (d :: ds)) =
        3 + total (fun l => l.stage.rank) (fresh ds) := rfl
    rw [first, ih, List.length_cons]
    omega

theorem length_cut_le {α : Type} {items : List α} {cut : List (List α)}
    (batched : batch items limit = .ok cut) : cut.length ≤ items.length := by
  obtain ⟨positive, -⟩ := of_batch batched
  rw [length_of_batch batched, Nat.div_le_iff_le_mul positive]
  have grown : items.length ≤ items.length * limit := Nat.le_mul_of_pos_right _ positive
  omega

theorem Call.Step.work_lt (step : call.Step w limit c more c' call') : call'.work < call.work := by
  cases step with
  | nothing =>
    simp only [Call.work, Control.work, total]
    omega
  | @chose ds wave rest some cut =>
    have whole := congrArg List.length (flatten_of_batch cut)
    have waves := length_cut_le cut
    have chosen := length_pending_le c ds
    rw [List.flatten_cons, List.length_append] at whole
    rw [List.length_cons] at waves
    simp only [Call.work, Control.work, ranks_fresh, total]
    omega
  | badSize =>
    simp only [Call.work, Control.work, total]
    omega
  | load step =>
    have less := step.rank_lt
    simp only [Call.work, total_middle]
    omega
  | next =>
    simp only [Call.work, Control.work, ranks_fresh, List.length_cons, List.flatten_cons,
      List.length_append]
    omega
  | finish =>
    simp only [Call.work, Control.work]
    omega
  | raise =>
    simp only [Call.work, Control.work]
    omega

theorem State.Step.work_lt {done : Trace} (step : State.Step w limit s done s') :
    s'.work < s.work := by
  cases step with
  | call step =>
    have less := step.work_lt
    simp only [State.work, total_middle]
    omega

theorem EndsIn.mono {p q : State → Prop} (ends : EndsIn w limit p s) (weaker : ∀ s, p s → q s) :
    EndsIn w limit q s := by
  induction ends with
  | intro last later ih => exact .intro (fun stuck => weaker _ (last stuck)) ih

/-- What follows for a state from all states that a step leads to holds of every state of a run,
where each step leaves less work. -/
theorem holds_of_work_lt {σ δ : Type} {run : List δ → σ → Prop} {step : σ → List δ → σ → Prop}
    {p : σ → Prop} (work : σ → Nat)
    (goesOn : ∀ trace done s s', run trace s → step s done s' → run (trace ++ done) s')
    (less : ∀ done s s', step s done s' → work s' < work s)
    (holds : ∀ trace s, run trace s → (∀ done s', step s done s' → p s') → p s) :
    ∀ trace s, run trace s → p s := by
  -- by induction on a bound of the work that is left
  have all : ∀ n trace s, run trace s → work s < n → p s := by
    intro n
    induction n with
    | zero => exact fun _ _ _ few => absurd few (Nat.not_lt_zero _)
    | succ n ih =>
      intro trace s reached few
      refine holds trace s reached ?_
      intro done s' taken
      have smaller := less done s s' taken
      exact ih _ s' (goesOn trace done s s' reached taken) (by omega)
  exact fun trace s reached => all _ trace s reached (Nat.lt_succ_self _)

/-- All runs end, and they end as their last states do. -/
theorem EndsIn.of_run {start : State} {p : State → Prop}
    (last : ∀ trace s, Run w limit start trace s → (∀ done s', ¬ State.Step w limit s done s') →
      p s) : EndsIn w limit p start :=
  holds_of_work_lt State.work (fun _ _ _ _ => Run.snoc) (fun _ _ _ => State.Step.work_lt)
    (fun trace s run later => .intro (last trace s run) later) [] start .nil

theorem Loader.exists_step (total : w.Total) (c : Cache) (l : Loader)
    (unfinished : ∀ outcome, l.stage ≠ .ended outcome) :
    ∃ actions c' l', Loader.Step w c l actions c' l' := by
  obtain ⟨d, stage⟩ := l
  cases stage with
  | waiting =>
    cases free : c.acquire? d.key with
    | none => exact ⟨_, _, _, .refused free⟩
    | some taken =>
      by_cases nameless : d.name = ""
      · exact ⟨_, _, _, .invalid free nameless⟩
      · exact ⟨_, _, _, .asked free nameless⟩
  | asked =>
    obtain ⟨reply, told⟩ := total (Registry.Kind.ofTag d.registry) d.name d.version
    cases follow : isFollowed d reply with
    | true => exact ⟨_, _, _, .askedFallback told follow⟩
    | false => exact ⟨_, _, _, .ended (.replied told follow)⟩
  | askedFallback =>
    obtain ⟨reply, told⟩ :=
      total (Registry.Kind.ofTag d.registry) (Package.typesPackage d.name) d.version
    exact ⟨_, _, _, .ended (.fallbackReplied told)⟩
  | ended outcome => exact absurd rfl (unfinished outcome)

theorem exists_outcomes {loaders : List Loader}
    (all : ∀ l ∈ loaders, ∃ outcome, l.stage = .ended outcome) :
    ∃ outcomes : List Outcome, loaders.map (·.stage) = outcomes.map .ended := by
  induction loaders with
  | nil => exact ⟨[], rfl⟩
  | cons l loaders ih =>
    obtain ⟨outcome, stage⟩ := all l List.mem_cons_self
    obtain ⟨outcomes, stages⟩ := ih fun k mem => all k (List.mem_cons_of_mem l mem)
    exact ⟨outcome :: outcomes, by rw [List.map_cons, List.map_cons, stage, stages]⟩

theorem exists_step_of_over {found : List Document} {rest : List (List Dependency)}
    {loaders : List Loader} (c : Cache)
    (all : ∀ l ∈ loaders, ∃ outcome, l.stage = .ended outcome) :
    ∃ actions c' call', Call.Step w limit c ⟨.loading found rest, loaders⟩ actions c' call' := by
  obtain ⟨outcomes, stages⟩ := exists_outcomes all
  rcases gather_cases outcomes with ⟨founds, -, good⟩ | ⟨e, mem, -⟩
  · cases rest with
    | nil => exact ⟨_, _, _, .finish stages good⟩
    | cons wave rest => exact ⟨_, _, _, .next stages good⟩
  · obtain ⟨d, failed⟩ := exists_failed stages mem
    exact ⟨_, _, _, .raise failed⟩

/-- A call goes on until it is over and its loaders have ended. -/
theorem Tracked.exists_step (total : w.Total) (tracked : Tracked w limit c₀ ds actions call)
    (c : Cache) : (∃ more c' call', Call.Step w limit c call more c' call') ∨
      (call.control.isOver = true ∧ call.IsQuiet) := by
  by_cases all : ∀ l ∈ call.wave, ∃ outcome, l.stage = .ended outcome
  · obtain ⟨control, loaders⟩ := call
    cases control with
    | returned => exact .inr ⟨rfl, all⟩
    | raised => exact .inr ⟨rfl, all⟩
    | loading => exact .inl (exists_step_of_over c all)
    | idle ds' =>
      obtain ⟨-, -, idle⟩ := tracked.eq_of_idle rfl
      obtain rfl : loaders = [] := congrArg Call.wave idle
      left
      by_cases some : pending c ds' = []
      · exact ⟨_, _, _, .nothing some⟩
      · cases cut : batch (pending c ds') limit with
        | error e => exact ⟨_, _, _, .badSize some cut⟩
        | ok waves =>
          cases waves with
          | nil => exact absurd (flatten_of_batch cut).symm some
          | cons wave rest => exact ⟨_, _, _, .chose some cut⟩
  · simp only [not_forall] at all
    obtain ⟨l, mem, unfinished⟩ := all
    obtain ⟨more, c', l', step⟩ :=
      l.exists_step total c fun outcome stage => unfinished ⟨outcome, stage⟩
    obtain ⟨control, loaders⟩ := call
    obtain ⟨before, after, rfl⟩ := List.append_of_mem mem
    exact .inl ⟨more, c', _, .load step⟩

/-- Where every question is answered, every run of calls ends with all of them over, and no loader
is left. -/
theorem EndsIn.of_isQuiet {p : State → Prop} (total : w.Total)
    (last : ∀ trace s, Run w limit (.start c inputs) trace s →
      (∀ call ∈ s.calls, call.control.isOver = true ∧ call.IsQuiet) → p s) :
    EndsIn w limit p (.start c inputs) := by
  apply EndsIn.of_run
  intro trace s run stuck
  apply last trace s run
  intro call mem
  obtain ⟨i, current⟩ := List.mem_iff_getElem?.mp mem
  obtain ⟨ds, -, c₀, tracked⟩ := run.tracked_at current
  rcases tracked.exists_step total s.cache with ⟨more, c', call', step⟩ | finished
  · obtain ⟨cache, calls⟩ := s
    obtain ⟨before, after, split⟩ := List.append_of_mem mem
    obtain rfl : calls = before ++ call :: after := split
    exact absurd (.call step) (stuck _ _)
  · exact finished

theorem EndsIn.of_isOver {p : State → Prop} (total : w.Total)
    (last : ∀ trace s, Run w limit (.start c inputs) trace s →
      (∀ call ∈ s.calls, call.control.isOver = true) → p s) :
    EndsIn w limit p (.start c inputs) :=
  .of_isQuiet total fun trace s run finished =>
    last trace s run fun call mem => (finished call mem).1

end AmbientTypes.Resolution
