import AmbientTypes.Proofs.Resolution.Pending
import AmbientTypes.Proofs.Resolution.Wave
import AmbientTypes.Resolution.Interleaving

namespace AmbientTypes.Resolution

def Action.dependency? : Action → Option Dependency
  | took d | refused d | asked d | askedFallback d | ended d _ => some d
  | chose _ | began _ | returned _ | raised _ => none

def Action.chose? : Action → Option (List Dependency)
  | chose ds => some ds
  | _ => none

def Action.began? : Action → Option (List Dependency)
  | began wave => some wave
  | _ => none

def Action.took? : Action → Option Dependency
  | took d => some d
  | _ => none

def Action.ended? : Action → Option Dependency
  | ended d _ => some d
  | _ => none

def about (d : Dependency) (actions : List Action) : List Action :=
  actions.filter fun a => a.dependency? = some d

def choices (actions : List Action) : List (List Dependency) := actions.filterMap Action.chose?

def begun (actions : List Action) : List (List Dependency) := actions.filterMap Action.began?

def taken (actions : List Action) : List Dependency := actions.filterMap Action.took?

/-- Whether a load has ended without a fault of the caller. -/
def Stage.isGood : Stage → Bool
  | ended (.ok _) => true
  | _ => false

def Stage.documents : Stage → List Document
  | ended (.ok found) => found
  | _ => []

/-- All loaders of the last wave have ended. -/
def Call.IsQuiet (call : Call) : Prop := ∀ l ∈ call.wave, ∃ outcome, l.stage = .ended outcome

/-- The actions of the loader of a dependency on the way to a stage. -/
inductive History (w : World) (d : Dependency) : Stage → List Action → Prop where
  | waiting : History w d .waiting []
  | refused : History w d (.ended (.ok [])) [.refused d, .ended d (.ok [])]
  | invalid (nameless : d.name = "") :
      History w d (.ended (.error (.declaration .emptyName)))
        [.took d, .ended d (.error (.declaration .emptyName))]
  | asked (named : d.name ≠ "") : History w d .asked [.took d, .asked d]
  | askedFallback (named : d.name ≠ "") {reply : Except Registry.Fault Declarations}
      (told : w.replies (Registry.Kind.ofTag d.registry) d.name d.version reply)
      (more : isFollowed d reply = true) :
      History w d .askedFallback [.took d, .asked d, .askedFallback d]
  | ended {stage : Stage} {outcome : Outcome} {actions : List Action}
      (past : History w d stage actions) (finished : Concludes w d stage outcome) :
      History w d (.ended outcome) (actions ++ [.ended d outcome])

variable {w : World} {limit : Nat} {c c' : Cache} {d : Dependency} {ds : List Dependency}
  {actions more : List Action} {l l' : Loader} {call call' : Call}

theorem Concludes.isRunning {stage : Stage} {outcome : Outcome}
    (finished : Concludes w d stage outcome) : stage.isRunning = true := by
  cases finished with
  | replied => rfl
  | fallbackReplied => rfl
  | crashed running => exact running

theorem Loader.Step.dependency_eq (step : l.Step w c more c' l') :
    l'.dependency = l.dependency := by
  cases step <;> rfl

theorem Loader.Step.not_ended (step : l.Step w c more c' l') (outcome : Outcome) :
    l.stage ≠ .ended outcome := by
  cases step with
  | ended finished =>
    have running := finished.isRunning
    intro same
    subst same
    exact absurd running (by simp [Stage.isRunning])
  | _ => exact Stage.noConfusion

theorem Loader.Step.dependency?_eq (step : l.Step w c more c' l') {a : Action} (mem : a ∈ more) :
    a.dependency? = some l.dependency := by
  cases step <;> simp only [List.mem_cons, List.not_mem_nil, or_false] at mem
  all_goals rcases mem with rfl | rfl <;> rfl

theorem History.step (past : History w l.dependency l.stage actions)
    (step : l.Step w c more c' l') : History w l'.dependency l'.stage (actions ++ more) := by
  cases step with
  | refused =>
    cases past
    exact .refused
  | invalid free nameless =>
    cases past
    exact .invalid nameless
  | asked free named =>
    cases past
    exact .asked named
  | askedFallback told follow =>
    cases past with
    | asked named => exact .askedFallback named told follow
  | ended finished => exact .ended past finished

theorem about_append (d : Dependency) (actions more : List Action) :
    about d (actions ++ more) = about d actions ++ about d more := List.filter_append _ _

theorem choices_append (actions more : List Action) :
    choices (actions ++ more) = choices actions ++ choices more := List.filterMap_append

theorem begun_append (actions more : List Action) :
    begun (actions ++ more) = begun actions ++ begun more := List.filterMap_append

theorem mem_about {a : Action} : a ∈ about d actions ↔ a ∈ actions ∧ a.dependency? = some d := by
  simp [about]

theorem about_eq_self (all : ∀ a ∈ actions, a.dependency? = some d) : about d actions = actions :=
  List.filter_eq_self.mpr (by simpa using all)

theorem about_eq_nil (none : ∀ a ∈ actions, a.dependency? ≠ some d) : about d actions = [] :=
  List.filter_eq_nil_iff.mpr (by simpa using none)

theorem choices_eq_nil (all : ∀ a ∈ actions, a.dependency? = some d) : choices actions = [] := by
  rw [choices, List.filterMap_eq_nil_iff]
  intro a mem
  have owned := all a mem
  cases a <;> first | rfl | exact absurd owned (by simp [Action.dependency?])

theorem begun_eq_nil (all : ∀ a ∈ actions, a.dependency? = some d) : begun actions = [] := by
  rw [begun, List.filterMap_eq_nil_iff]
  intro a mem
  have owned := all a mem
  cases a <;> first | rfl | exact absurd owned (by simp [Action.dependency?])

theorem mapM_id_cases (outcomes : List Outcome) :
    (∃ founds : List (List Document), outcomes = founds.map .ok ∧
      outcomes.mapM id = .ok founds) ∨
    ∃ e, .error e ∈ outcomes ∧ outcomes.mapM id = .error e := by
  induction outcomes with
  | nil => exact .inl ⟨[], rfl, rfl⟩
  | cons outcome outcomes ih =>
    rw [List.mapM_cons]
    cases outcome with
    | error e => exact .inr ⟨e, List.mem_cons_self, rfl⟩
    | ok found =>
      rcases ih with ⟨founds, same, all⟩ | ⟨e, mem, bad⟩
      · refine .inl ⟨found :: founds, by simp [same], ?_⟩
        rw [all]
        rfl
      · refine .inr ⟨e, List.mem_cons_of_mem _ mem, ?_⟩
        rw [bad]
        rfl

theorem gather_cases (outcomes : List Outcome) :
    (∃ founds : List (List Document), outcomes = founds.map .ok ∧
      gather outcomes = .ok founds.flatten) ∨
    ∃ e, .error e ∈ outcomes ∧ gather outcomes = .error e := by
  unfold gather
  rcases mapM_id_cases outcomes with ⟨founds, same, all⟩ | ⟨e, mem, bad⟩
  · exact .inl ⟨founds, same, by rw [all]; rfl⟩
  · exact .inr ⟨e, mem, by rw [bad]; rfl⟩

theorem good_of_gather {loaders : List Loader} {outcomes : List Outcome} {found : List Document}
    (all : loaders.map (·.stage) = outcomes.map .ended) (good : gather outcomes = .ok found) :
    (∀ l ∈ loaders, l.stage.isGood = true) ∧
      found = loaders.flatMap (·.stage.documents) := by
  rcases gather_cases outcomes with ⟨founds, same, gathered⟩ | ⟨e, mem, bad⟩
  · have stages : loaders.map (·.stage) = founds.map fun f => .ended (.ok f) := by
      rw [all, same, List.map_map]
      rfl
    have equal : founds.flatten = found := Except.ok.inj (gathered.symm.trans good)
    constructor
    · intro l mem
      have mem' : l.stage ∈ loaders.map (·.stage) := List.mem_map.mpr ⟨l, mem, rfl⟩
      rw [stages, List.mem_map] at mem'
      obtain ⟨f, -, stage⟩ := mem'
      rw [← stage]
      rfl
    · rw [← equal, ← List.flatMap_map (f := Loader.stage) (g := Stage.documents), stages,
        List.flatMap_def, List.map_map]
      exact congrArg List.flatten (List.map_id founds).symm
  · exact absurd (good.symm.trans bad) (by simp)

theorem exists_failed {loaders : List Loader} {outcomes : List Outcome} {e : Fault}
    (all : loaders.map (·.stage) = outcomes.map .ended) (mem : .error e ∈ outcomes) :
    ∃ d, ⟨d, .ended (.error e)⟩ ∈ loaders := by
  have ended : .ended (.error e) ∈ loaders.map (·.stage) := all ▸ List.mem_map_of_mem mem
  obtain ⟨⟨d, stage⟩, lmem, same⟩ := List.mem_map.mp ended
  obtain rfl : stage = .ended (.error e) := same
  exact ⟨d, lmem⟩

end AmbientTypes.Resolution
