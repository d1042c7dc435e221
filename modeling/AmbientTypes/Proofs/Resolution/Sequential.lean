import AmbientTypes.Proofs.Resolution.Outcome
import AmbientTypes.Proofs.Resolution.Trace

namespace AmbientTypes.Resolution

def Reaches (w : World) (limit : Nat) (s s' : State) : Prop := ∃ trace, Run w limit s trace s'

def Control.ofOutcome : Outcome → Control
  | .ok found => returned found
  | .error e => raised e

/-- A call that has chosen, before any of its loaders has started. -/
def Call.ofChosen (limit : Nat) (chosen : List Dependency) : Call :=
  if chosen.isEmpty then ⟨.returned [], []⟩
  else match batch chosen limit with
    | .error e => ⟨.raised (.size e), []⟩
    | .ok [] => ⟨.returned [], []⟩
    | .ok (wave :: rest) => ⟨.loading [] rest, fresh wave⟩

variable {w : World} {sources : Registry.Sources} {limit : Nat} {c c' : Cache}
  {s s' s'' : State} {before after : List Call} {call call' : Call} {control : Control}
  {left right : List Loader} {l l' : Loader} {actions : List Action}

namespace Reaches

theorem refl (s : State) : Reaches w limit s s := ⟨[], .nil⟩

theorem trans (first : Reaches w limit s s') (second : Reaches w limit s' s'') :
    Reaches w limit s s'' := by
  obtain ⟨trace, run⟩ := first
  obtain ⟨more, run'⟩ := second
  induction run' with
  | nil => exact ⟨trace, run⟩
  | snoc _ step ih =>
    obtain ⟨_, run'⟩ := ih
    exact ⟨_, run'.snoc step⟩

theorem ofCall (step : call.Step w limit c actions c' call') :
    Reaches w limit ⟨c, before ++ call :: after⟩ ⟨c', before ++ call' :: after⟩ :=
  ⟨_, Run.nil.snoc (.call step)⟩

theorem ofLoader (step : l.Step w c actions c' l') :
    Reaches w limit ⟨c, before ++ ⟨control, left ++ l :: right⟩ :: after⟩
      ⟨c', before ++ ⟨control, left ++ l' :: right⟩ :: after⟩ :=
  .ofCall (.load step)

end Reaches

theorem run_bind_state {σ α β : Type} (x : StateT σ Journaled α) (f : α → StateT σ Journaled β)
    (c : σ) : ((x >>= f).run c).value = ((f (x.run c).value.1).run (x.run c).value.2).value := rfl

theorem load_value (sources : Registry.Sources) (d : Dependency) (c : Cache) :
    ((load sources d).run c).value = match c.acquire? d.key with
      | none => (.ok [], c)
      | some taken => ((loadTaken sources d).value, taken.clearInFlight d.key) := by
  unfold load
  rw [run_bind_state]
  have known : ((get : StateT Cache Journaled Cache).run c).value = (c, c) := rfl
  rw [known]
  dsimp only
  cases c.acquire? d.key <;> rfl

section

variable (respectful : Respectful sources) (limit : Nat) (before after : List Call)

theorem reaches_load (d : Dependency) (c : Cache) :
    Reaches (.ofSources sources respectful) limit
      ⟨c, before ++ ⟨control, left ++ ⟨d, .waiting⟩ :: right⟩ :: after⟩
      ⟨((load sources d).run c).value.2, before ++
        ⟨control, left ++ ⟨d, .ended ((load sources d).run c).value.1⟩ :: right⟩ :: after⟩ := by
  rw [load_value]
  cases free : c.acquire? d.key with
  | none => exact .ofLoader (.refused free)
  | some taken =>
    dsimp only
    by_cases nameless : d.name = ""
    · rw [loadTaken_of_nameless nameless]
      exact .ofLoader (.invalid free nameless)
    · generalize told :
        (sources (Registry.Kind.ofTag d.registry) d.name d.version).run.value = reply
      have asked : Reaches (.ofSources sources respectful) limit
          ⟨c, before ++ ⟨control, left ++ ⟨d, .waiting⟩ :: right⟩ :: after⟩
          ⟨taken, before ++ ⟨control, left ++ ⟨d, .asked⟩ :: right⟩ :: after⟩ :=
        .ofLoader (.asked free nameless)
      cases follow : isFollowed d reply with
      | false =>
        rw [loadTaken_of_replied nameless told follow]
        exact asked.trans (.ofLoader (.ended (.replied told follow)))
      | true =>
        generalize told' : (sources (Registry.Kind.ofTag d.registry) (Package.typesPackage d.name)
          d.version).run.value = reply'
        rw [loadTaken_of_fallbackReplied nameless told follow told']
        have more : Reaches (.ofSources sources respectful) limit
            ⟨taken, before ++ ⟨control, left ++ ⟨d, .asked⟩ :: right⟩ :: after⟩
            ⟨taken, before ++ ⟨control, left ++ ⟨d, .askedFallback⟩ :: right⟩ :: after⟩ :=
          .ofLoader (.askedFallback told follow)
        exact (asked.trans more).trans (.ofLoader (.ended (.fallbackReplied told')))

theorem mapM_cons_value {α β : Type} (f : α → StateT Cache Journaled β) (x : α) (xs : List α)
    (c : Cache) :
    (((x :: xs).mapM f).run c).value =
      let first := ((f x).run c).value
      let later := ((xs.mapM f).run first.2).value
      (first.1 :: later.1, later.2) := by
  rw [List.mapM_cons, run_bind_state, run_bind_state]
  rfl

theorem reaches_mapM (control : Control) (ds : List Dependency) (left : List Loader) (c : Cache) :
    ∃ loaders : List Loader,
      loaders.map (·.stage) = ((ds.mapM (load sources)).run c).value.1.map .ended ∧
      Reaches (.ofSources sources respectful) limit
        ⟨c, before ++ ⟨control, left ++ fresh ds⟩ :: after⟩
        ⟨((ds.mapM (load sources)).run c).value.2,
          before ++ ⟨control, left ++ loaders⟩ :: after⟩ := by
  -- the loaders on the left have ended before the first of `ds` starts
  induction ds generalizing left c with
  | nil => exact ⟨[], rfl, .refl _⟩
  | cons d ds ih =>
    have first : Reaches (.ofSources sources respectful) limit
        ⟨c, before ++ ⟨control, left ++ fresh (d :: ds)⟩ :: after⟩
        ⟨((load sources d).run c).value.2, before ++
          ⟨control, left ++ ⟨d, .ended ((load sources d).run c).value.1⟩ :: fresh ds⟩ :: after⟩ :=
      reaches_load respectful limit before after d c
    obtain ⟨loaders, stages, later⟩ := ih (left ++ [⟨d, .ended ((load sources d).run c).value.1⟩])
      ((load sources d).run c).value.2
    rw [List.append_assoc, List.append_assoc] at later
    rw [mapM_cons_value]
    refine ⟨⟨d, .ended ((load sources d).run c).value.1⟩ :: loaders, ?_, first.trans later⟩
    rw [List.map_cons, stages]
    rfl

theorem loadWaves_cons_value (wave : List Dependency) (rest : List (List Dependency)) (c : Cache) :
    ((loadWaves sources (wave :: rest)).run c).value =
      let loaded := ((wave.mapM (load sources)).run c).value
      match gather loaded.1 with
      | .error e => (.error e, loaded.2)
      | .ok more =>
        let later := ((loadWaves sources rest).run loaded.2).value
        (later.1.map (more ++ ·), later.2) := by
  rw [loadWaves, run_bind_state]
  have gathered : ((loadWave sources wave).run c).value =
      (gather ((wave.mapM (load sources)).run c).value.1,
        ((wave.mapM (load sources)).run c).value.2) := rfl
  rw [gathered]
  dsimp only
  cases gather ((wave.mapM (load sources)).run c).value.1 <;> rfl

theorem Outcome.map_append (found more : List Document) (outcome : Outcome) :
    (outcome.map (more ++ ·)).map (found ++ ·) = outcome.map (found ++ more ++ ·) := by
  cases outcome with
  | ok => simp [Except.map]
  | error => rfl

/-- A wave is loaded, and its loads are gathered or one of them has failed. -/
theorem reaches_wave (wave : List Dependency) (rest : List (List Dependency))
    (found : List Document) (c : Cache) :
    ∃ loaders, Reaches (.ofSources sources respectful) limit
        ⟨c, before ++ ⟨.loading found rest, fresh wave⟩ :: after⟩
        ⟨((wave.mapM (load sources)).run c).value.2,
          before ++ ⟨.loading found rest, loaders⟩ :: after⟩ ∧
      loaders.map (·.stage) = ((wave.mapM (load sources)).run c).value.1.map .ended ∧
      ((∃ more, gather ((wave.mapM (load sources)).run c).value.1 = .ok more) ∨
        ∃ e d, gather ((wave.mapM (load sources)).run c).value.1 = .error e ∧
          ⟨d, .ended (.error e)⟩ ∈ loaders) := by
  obtain ⟨loaders, stages, loaded⟩ :=
    reaches_mapM respectful limit before after (.loading found rest) wave [] c
  refine ⟨loaders, loaded, stages, ?_⟩
  rcases gather_cases ((wave.mapM (load sources)).run c).value.1 with
    ⟨founds, -, good⟩ | ⟨e, mem, bad⟩
  · exact .inl ⟨_, good⟩
  · obtain ⟨d, failed⟩ := exists_failed stages mem
    exact .inr ⟨e, d, bad, failed⟩

theorem quiet_of_stages {loaders : List Loader} {outcomes : List Outcome}
    (stages : loaders.map (·.stage) = outcomes.map .ended) : Call.IsQuiet ⟨control, loaders⟩ := by
  intro l mem
  have ended := List.mem_map_of_mem (f := Loader.stage) mem
  rw [stages, List.mem_map] at ended
  obtain ⟨outcome, -, same⟩ := ended
  exact ⟨outcome, same.symm⟩

/-- Waves from the last one that has begun are a run of their call, and no loader is left. -/
theorem reaches_loadWaves (wave : List Dependency) (rest : List (List Dependency))
    (found : List Document) (c : Cache) :
    ∃ call, call.control =
        .ofOutcome (((loadWaves sources (wave :: rest)).run c).value.1.map (found ++ ·)) ∧
      call.IsQuiet ∧ Reaches (.ofSources sources respectful) limit
        ⟨c, before ++ ⟨.loading found rest, fresh wave⟩ :: after⟩
        ⟨((loadWaves sources (wave :: rest)).run c).value.2, before ++ call :: after⟩ := by
  induction rest generalizing wave found c with
  | nil =>
    obtain ⟨loaders, loaded, stages, ⟨more, good⟩ | ⟨e, d, bad, failed⟩⟩ :=
      reaches_wave respectful limit before after wave [] found c
    · have none : ((loadWaves sources []).run ((wave.mapM (load sources)).run c).value.2).value =
          (.ok [], ((wave.mapM (load sources)).run c).value.2) := rfl
      have whole : (Except.ok [] : Outcome).map (found ++ more ++ ·) = .ok (found ++ more) := by
        simp [Except.map]
      rw [loadWaves_cons_value]
      dsimp only
      rw [good]
      dsimp only
      rw [Outcome.map_append, none, whole]
      exact ⟨_, rfl, quiet_of_stages stages, loaded.trans (.ofCall (.finish stages good))⟩
    · rw [loadWaves_cons_value]
      dsimp only
      rw [bad]
      exact ⟨_, rfl, quiet_of_stages stages, loaded.trans (.ofCall (.raise failed))⟩
  | cons next rest ih =>
    obtain ⟨loaders, loaded, stages, ⟨more, good⟩ | ⟨e, d, bad, failed⟩⟩ :=
      reaches_wave respectful limit before after wave (next :: rest) found c
    · rw [loadWaves_cons_value]
      dsimp only
      rw [good]
      dsimp only
      rw [Outcome.map_append]
      obtain ⟨last, control, quiet, later⟩ :=
        ih next (found ++ more) ((wave.mapM (load sources)).run c).value.2
      exact ⟨last, control, quiet, (loaded.trans (.ofCall (.next stages good))).trans later⟩
    · rw [loadWaves_cons_value]
      dsimp only
      rw [bad]
      exact ⟨_, rfl, quiet_of_stages stages, loaded.trans (.ofCall (.raise failed))⟩

theorem reaches_choose (ds : List Dependency) (c : Cache) :
    Reaches w limit ⟨c, before ++ ⟨.idle ds, []⟩ :: after⟩
      ⟨c, before ++ .ofChosen limit (pending c ds) :: after⟩ := by
  unfold Call.ofChosen
  by_cases none : pending c ds = []
  · rw [if_pos (by simp [none])]
    exact .ofCall (.nothing none)
  · rw [if_neg (by simpa using none)]
    cases cut : batch (pending c ds) limit with
    | error e => exact .ofCall (.badSize none cut)
    | ok waves =>
      cases waves with
      | nil => exact absurd (flatten_of_batch cut).symm none
      | cons wave rest => exact .ofCall (.chose none cut)

theorem reaches_loadAll (chosen : List Dependency) (c : Cache) :
    ∃ call, call.control = .ofOutcome ((loadAll sources limit chosen).run c).value.1 ∧
      call.IsQuiet ∧ Reaches (.ofSources sources respectful) limit
        ⟨c, before ++ .ofChosen limit chosen :: after⟩
        ⟨((loadAll sources limit chosen).run c).value.2, before ++ call :: after⟩ := by
  have idle : ∀ control, Call.IsQuiet ⟨control, []⟩ := fun _ _ mem => nomatch mem
  unfold loadAll Call.ofChosen
  cases none : chosen.isEmpty with
  | true => exact ⟨_, rfl, idle _, .refl _⟩
  | false =>
    simp only [if_neg Bool.false_ne_true]
    cases cut : batch chosen limit with
    | error e => exact ⟨_, rfl, idle _, .refl _⟩
    | ok waves =>
      cases waves with
      | nil => exact ⟨_, rfl, idle _, .refl _⟩
      | cons wave rest =>
        obtain ⟨call, control, quiet, loaded⟩ :=
          reaches_loadWaves respectful limit before after wave rest [] c
        refine ⟨call, control.trans ?_, quiet, loaded⟩
        dsimp only
        cases ((loadWaves sources (wave :: rest)).run c).value.1 <;> rfl

end

/-- A resolution on its own is a run of one call, all of whose loaders have ended. -/
theorem reaches_resolve_quiet (respectful : Respectful sources) (limit : Nat)
    (ds : List Dependency) (c : Cache) :
    ∃ call, call.control = .ofOutcome ((resolve sources limit ds).run c).value.1 ∧
      call.IsQuiet ∧ Reaches (.ofSources sources respectful) limit (.start c [ds])
        ⟨((resolve sources limit ds).run c).value.2, [call]⟩ := by
  have chosen : ((resolve sources limit ds).run c).value =
      ((loadAll sources limit (pending c ds)).run c).value := rfl
  rw [chosen]
  obtain ⟨call, control, quiet, loaded⟩ := reaches_loadAll respectful limit [] [] (pending c ds) c
  exact ⟨call, control, quiet, (reaches_choose limit [] [] ds c).trans loaded⟩

theorem reaches_resolve (respectful : Respectful sources) (limit : Nat) (ds : List Dependency)
    (c : Cache) :
    ∃ call, call.control = .ofOutcome ((resolve sources limit ds).run c).value.1 ∧
      Reaches (.ofSources sources respectful) limit (.start c [ds])
        ⟨((resolve sources limit ds).run c).value.2, [call]⟩ := by
  obtain ⟨call, control, -, loaded⟩ := reaches_resolve_quiet respectful limit ds c
  exact ⟨call, control, loaded⟩

theorem mapM_choose_value (inputs : List (List Dependency)) (c : Cache) :
    ((inputs.mapM choose).run c).value = (inputs.map (pending c), c) := by
  induction inputs with
  | nil => rfl
  | cons ds inputs ih =>
    have chosen : ((choose ds).run c).value = (pending c ds, c) := rfl
    rw [mapM_cons_value, chosen]
    dsimp only
    rw [ih]
    rfl

theorem reaches_mapM_choose (limit : Nat) (before : List Call) (inputs : List (List Dependency))
    (c : Cache) :
    Reaches w limit ⟨c, before ++ inputs.map fun ds => ⟨.idle ds, []⟩⟩
      ⟨c, before ++ inputs.map fun ds => .ofChosen limit (pending c ds)⟩ := by
  induction inputs generalizing before with
  | nil => exact .refl _
  | cons ds inputs ih =>
    have later := ih (before ++ [.ofChosen limit (pending c ds)])
    rw [List.append_assoc, List.append_assoc] at later
    exact (reaches_choose limit before _ ds c).trans later

theorem reaches_mapM_loadAll (respectful : Respectful sources) (limit : Nat) (before : List Call)
    (chosen : List (List Dependency)) (c : Cache) :
    ∃ calls : List Call,
      calls.map (·.control) =
        ((chosen.mapM (loadAll sources limit)).run c).value.1.map Control.ofOutcome ∧
      Reaches (.ofSources sources respectful) limit
        ⟨c, before ++ chosen.map (Call.ofChosen limit)⟩
        ⟨((chosen.mapM (loadAll sources limit)).run c).value.2, before ++ calls⟩ := by
  induction chosen generalizing before c with
  | nil => exact ⟨[], rfl, .refl _⟩
  | cons ds chosen ih =>
    obtain ⟨call, control, -, loaded⟩ :=
      reaches_loadAll respectful limit before (chosen.map (Call.ofChosen limit)) ds c
    obtain ⟨calls, controls, later⟩ := ih (before ++ [call])
      ((loadAll sources limit ds).run c).value.2
    rw [List.append_assoc, List.append_assoc] at later
    rw [mapM_cons_value]
    refine ⟨call :: calls, ?_, loaded.trans later⟩
    rw [List.map_cons, control, controls]
    rfl

/-- Resolutions at once, of which each chooses before any loads, are a run of their calls. -/
theorem reaches_resolveTogether (respectful : Respectful sources) (limit : Nat)
    (inputs : List (List Dependency)) (c : Cache) :
    ∃ calls : List Call,
      calls.map (·.control) =
        ((resolveTogether sources limit inputs).run c).value.1.map Control.ofOutcome ∧
      Reaches (.ofSources sources respectful) limit (.start c inputs)
        ⟨((resolveTogether sources limit inputs).run c).value.2, calls⟩ := by
  rw [resolveTogether, run_bind_state, mapM_choose_value]
  obtain ⟨calls, controls, loaded⟩ :=
    reaches_mapM_loadAll respectful limit [] (inputs.map (pending c)) c
  rw [List.map_map] at loaded
  exact ⟨calls, controls, (reaches_mapM_choose limit [] inputs c).trans loaded⟩

end AmbientTypes.Resolution
