import AmbientTypes.Proofs.Declaration.Places
import AmbientTypes.Proofs.Resolution.Termination
import AmbientTypes.Resolution.Selection

namespace AmbientTypes.Resolution

/-- The documents that a tag brings into a selection. -/
def Supply.contribution (supply : Supply) (tag : String) : List Document :=
  match supply.load (builtinPackage tag) with
  | .ok found => found
  | .error _ => []

/-- What a selection comes to, by its tags in order. -/
def Supply.selection (supply : Supply) (ordered : List String) : Outcome :=
  if "" ∈ ordered then .error .emptyTag else .ok (ordered.flatMap supply.contribution)

variable {supply : Supply} {limit : Nat} {tags tags' : List String} {tag package : String}

theorem builtinPackage_ne_empty (tag : String) : builtinPackage tag ≠ "" := by
  have known : ∀ entry ∈ Package.builtins, entry.2 ≠ "" := by decide
  unfold builtinPackage
  cases found : Package.builtins.lookup tag with
  | some package =>
    obtain ⟨before, after, split, -⟩ := List.lookup_eq_some_iff.mp found
    exact known (tag, package) (split ▸ List.mem_append_right _ List.mem_cons_self)
  | none =>
    intro empty
    have scope : ("@types/" ++ tag).length = 0 := congrArg String.length empty
    rw [String.length_append] at scope
    have six : "@types/".length = 7 := rfl
    omega

namespace Supply

theorem load_ne_emptyName (supply : Supply) (named : package ≠ "") :
    supply.load package ≠ .error .emptyName := by
  unfold load
  intro blamed
  cases told : (supply.sources .general package "").run.value with
  | error e =>
    rw [told] at blamed
    cases blamed
    exact named (supply.respectful .general package "" told)
  | ok types =>
    rw [told] at blamed
    cases broken : supply.breaks package with
    | none =>
      rw [broken] at blamed
      cases blamed
    | some e =>
      rw [broken] at blamed
      cases blamed
      exact supply.blameless package broken

/-- A tag never fails its selection. -/
theorem outcome_eq (supply : Supply) (tag : String) :
    supply.outcome tag = .ok (supply.contribution tag) := by
  have other := supply.load_ne_emptyName (builtinPackage_ne_empty tag)
  unfold outcome contribution
  cases loaded : supply.load (builtinPackage tag) with
  | ok found => cases found <;> rfl
  | error e =>
    rw [loaded] at other
    cases e with
    | emptyName => exact absurd rfl other
    | _ => rfl

end Supply

theorem mem_sortedTags : tag ∈ sortedTags tags ↔ tag ∈ tags := by
  rw [sortedTags, List.mem_mergeSort, List.mem_eraseDups]

theorem sortedTags_nodup (tags : List String) : (sortedTags tags).Nodup :=
  (List.mergeSort_perm _ _).nodup_iff.mpr (Declaration.nodup_eraseDups tags)

theorem sortedTags_pairwise (tags : List String) : (sortedTags tags).Pairwise (· < ·) := by
  have upward : (sortedTags tags).Pairwise (· ≤ ·) := by
    have le_iff : ∀ a b : String, (!(b < a : Bool)) = true ↔ a ≤ b := by
      intro a b
      rw [Bool.not_eq_true', decide_eq_false_iff_not, String.not_lt]
    have sorted := @List.pairwise_mergeSort _ (fun a b : String => !(b < a : Bool))
      (fun a b c => by rw [le_iff, le_iff, le_iff]; exact String.le_trans)
      (fun a b => by rw [Bool.or_eq_true, le_iff, le_iff]; exact String.le_total a b)
      tags.eraseDups
    exact sorted.imp (le_iff _ _).mp
  refine (upward.and (sortedTags_nodup tags)).imp ?_
  intro a b h
  rw [← String.not_le]
  exact fun back => h.2 (String.le_antisymm h.1 back)

/-- The order of the tags, and how often each is named, does not matter. -/
theorem sortedTags_eq (same : ∀ tag, tag ∈ tags ↔ tag ∈ tags') :
    sortedTags tags = sortedTags tags' := by
  have permuted : (sortedTags tags).Perm (sortedTags tags') := by
    rw [List.perm_ext_iff_of_nodup (sortedTags_nodup tags) (sortedTags_nodup tags')]
    intro tag
    rw [mem_sortedTags, mem_sortedTags, same]
  refine permuted.eq_of_pairwise ?_ (sortedTags_pairwise tags) (sortedTags_pairwise tags')
  exact fun a b _ _ less more => absurd more (String.lt_asymm less)

theorem selection_sortedTags (supply : Supply) (tags : List String) :
    supply.selection (sortedTags tags) =
      if "" ∈ tags then .error .emptyTag
      else .ok ((sortedTags tags).flatMap supply.contribution) := by
  simp only [Supply.selection, mem_sortedTags]

namespace Selection

/-- A loader that has ended has done so with the outcome of its tag. -/
def Loader.IsSound (supply : Supply) (l : Loader) : Prop :=
  ∀ outcome, l.stage = .ended outcome → outcome = supply.outcome l.tag

/-- How a selection of some tags stands: while it loads, the tags that are done, those of the last
wave and those to come are all of them in order. -/
inductive Call.Stands (supply : Supply) (tags : List String) : Call → Prop where
  | idle : Call.Stands supply tags ⟨.idle tags, []⟩
  | rejected (empty : "" ∈ tags) : Call.Stands supply tags ⟨.raised .emptyTag, []⟩
  | loading {done : List String} {loaders : List Loader} {rest : List (List String)}
      (full : "" ∉ tags) (sound : ∀ l ∈ loaders, l.IsSound supply)
      (whole : done ++ (loaders.map (·.tag) ++ rest.flatten) = sortedTags tags) :
      Call.Stands supply tags ⟨.loading (done.flatMap supply.contribution) rest, loaders⟩
  | returned {loaders : List Loader} (full : "" ∉ tags) :
      Call.Stands supply tags
        ⟨.returned ((sortedTags tags).flatMap supply.contribution), loaders⟩

variable {call call' : Call} {l l' : Loader} {loaders : List Loader} {a : Action}
  {found more : List Document} {outcomes : List Outcome}

theorem Loader.Step.tag_eq (step : l.Step supply a l') : l'.tag = l.tag := by
  cases step <;> rfl

theorem Loader.Step.isSound (step : l.Step supply a l') : l'.IsSound supply := by
  cases step with
  | asked => exact fun outcome same => Stage.noConfusion same
  | ended => exact fun outcome same => (Stage.ended.inj same).symm

theorem fresh_isSound (wave : List String) : ∀ l ∈ fresh wave, l.IsSound supply := by
  intro l mem outcome ended
  obtain ⟨tag, -, rfl⟩ := List.mem_map.mp mem
  cases ended

theorem tags_fresh (wave : List String) : (fresh wave).map (·.tag) = wave := by
  simp [fresh, Function.comp_def]

theorem gather_outcomes (supply : Supply) (tags : List String) :
    gather (tags.map supply.outcome) = .ok (tags.flatMap supply.contribution) := by
  have good : tags.map supply.outcome = (tags.map supply.contribution).map .ok := by
    rw [List.map_map]
    exact List.map_congr_left fun tag _ => supply.outcome_eq tag
  rw [good]
  rcases gather_cases ((tags.map supply.contribution).map .ok) with
    ⟨founds, same, gathered⟩ | ⟨e, mem, -⟩
  · have equal : tags.map supply.contribution = founds :=
      List.map_injective_iff.mpr (fun _ _ => Except.ok.inj) same
    rw [gathered, ← equal, List.flatMap_def]
  · simp at mem

theorem stages_eq (sound : ∀ l ∈ loaders, l.IsSound supply)
    (all : ∀ l ∈ loaders, ∃ outcome, l.stage = .ended outcome) :
    loaders.map (·.stage) = ((loaders.map (·.tag)).map supply.outcome).map .ended := by
  rw [List.map_map, List.map_map]
  apply List.map_congr_left
  intro l mem
  obtain ⟨outcome, ended⟩ := all l mem
  rw [ended, sound l mem outcome ended]
  rfl

/-- What a wave has found is what its tags contribute. -/
theorem found_eq (sound : ∀ l ∈ loaders, l.IsSound supply)
    (all : loaders.map (·.stage) = outcomes.map .ended) (good : gather outcomes = .ok found) :
    found = (loaders.map (·.tag)).flatMap supply.contribution := by
  have ended : ∀ l ∈ loaders, ∃ outcome, l.stage = .ended outcome := by
    intro l mem
    have stage : l.stage ∈ outcomes.map .ended := all ▸ List.mem_map_of_mem mem
    obtain ⟨outcome, -, same⟩ := List.mem_map.mp stage
    exact ⟨outcome, same.symm⟩
  have outcomes_eq : outcomes = (loaders.map (·.tag)).map supply.outcome :=
    List.map_injective_iff.mpr (fun _ _ => Stage.ended.inj)
      (all.symm.trans (stages_eq sound ended))
  rw [outcomes_eq, gather_outcomes] at good
  exact (Except.ok.inj good).symm

namespace Call

theorem Stands.load {control : Control} {before after : List Loader}
    (stands : Call.Stands supply tags ⟨control, before ++ l :: after⟩)
    (step : l.Step supply a l') :
    "" ∉ tags ∧ Call.Stands supply tags ⟨control, before ++ l' :: after⟩ := by
  generalize same : before ++ l :: after = loaders at stands
  cases stands with
  | idle => exact absurd same (by simp)
  | rejected => exact absurd same (by simp)
  | returned full => exact ⟨full, .returned full⟩
  | loading full sound whole =>
    subst same
    refine ⟨full, .loading full ?_ ?_⟩
    · intro k mem
      rw [List.mem_append, List.mem_cons] at mem
      rcases mem with mem | rfl | mem
      · exact sound k (List.mem_append_left _ mem)
      · exact step.isSound
      · exact sound k (List.mem_append_right _ (List.mem_cons_of_mem l mem))
    · rw [← whole]
      simp [step.tag_eq]

theorem Step.stands (positive : 1 ≤ limit) (step : Call.Step supply limit call a call')
    (stands : call.Stands supply tags) : call'.Stands supply tags := by
  cases step with
  | rejected empty =>
    cases stands
    exact .rejected empty
  | badSize full uncut =>
    rw [batch_of_one_le _ positive] at uncut
    cases uncut
  | nothing full cut =>
    cases stands
    have none := flatten_of_batch cut
    have returned : Call.Stands supply tags
        ⟨.returned ((sortedTags tags).flatMap supply.contribution), []⟩ := .returned full
    rw [← none] at returned
    exact returned
  | @chose _ wave rest full cut =>
    cases stands
    have whole : [] ++ ((fresh wave).map (·.tag) ++ rest.flatten) = sortedTags tags := by
      rw [tags_fresh]
      exact flatten_of_batch cut
    exact .loading full (fresh_isSound wave) whole
  | load step => exact (stands.load step).2
  | @next _ _ wave rest loaders _ all good =>
    cases stands with
    | @loading done _ _ full sound whole =>
      rw [found_eq sound all good, ← List.flatMap_append]
      have whole' : done ++ loaders.map (·.tag) ++ ((fresh wave).map (·.tag) ++ rest.flatten) =
          sortedTags tags := by
        rw [tags_fresh, ← whole]
        simp
      exact .loading full (fresh_isSound wave) whole'
  | @finish _ _ loaders _ all good =>
    cases stands with
    | @loading done _ _ full sound whole =>
      have last : done ++ loaders.map (·.tag) = sortedTags tags := by simpa using whole
      rw [found_eq sound all good, ← List.flatMap_append, last]
      exact .returned full
  | @raise _ _ _ tag e bad =>
    cases stands with
    | loading full sound whole =>
      have failed : .error e = supply.outcome tag := sound _ bad _ rfl
      rw [supply.outcome_eq] at failed
      cases failed

/-- A selection with an empty tag asks for nothing. -/
theorem Step.ne_asked (step : Call.Step supply limit call a call')
    (stands : call.Stands supply tags) (empty : "" ∈ tags) (package : String) :
    a ≠ .asked package := by
  cases step with
  | load step => exact absurd empty (stands.load step).1
  | _ => exact Action.noConfusion

/-- A selection goes on until it has come to what its tags come to. -/
theorem Stands.exists_step (stands : call.Stands supply tags) (limit : Nat) :
    (∃ a call', Call.Step supply limit call a call') ∨
      call.control = .ofOutcome (supply.selection (sortedTags tags)) := by
  rw [selection_sortedTags]
  cases stands with
  | rejected empty => exact .inr (by rw [if_pos empty]; rfl)
  | returned full => exact .inr (by rw [if_neg full]; rfl)
  | idle =>
    left
    by_cases empty : "" ∈ tags
    · exact ⟨_, _, .rejected empty⟩
    · cases cut : batch (sortedTags tags) limit with
      | error e => exact ⟨_, _, .badSize empty cut⟩
      | ok waves =>
        cases waves with
        | nil => exact ⟨_, _, .nothing empty cut⟩
        | cons wave rest => exact ⟨_, _, .chose empty cut⟩
  | @loading done loaders rest full sound whole =>
    left
    by_cases all : ∀ l ∈ loaders, ∃ outcome, l.stage = .ended outcome
    · have stages := stages_eq sound all
      have good := gather_outcomes supply (loaders.map (·.tag))
      cases rest with
      | nil => exact ⟨_, _, .finish stages good⟩
      | cons wave rest => exact ⟨_, _, .next stages good⟩
    · simp only [not_forall] at all
      obtain ⟨⟨tag, stage⟩, mem, unfinished⟩ := all
      obtain ⟨before, after, rfl⟩ := List.append_of_mem mem
      cases stage with
      | waiting => exact ⟨_, _, .load .asked⟩
      | asked => exact ⟨_, _, .load .ended⟩
      | ended outcome => exact absurd ⟨outcome, rfl⟩ unfinished

end Call

/-- How many steps a loader may still take. -/
def Stage.rank : Stage → Nat
  | waiting => 2
  | asked => 1
  | ended _ => 0

/-- What a control may still begin; a wave counts for its beginning and for its loaders. -/
def Control.work : Control → Nat
  | idle tags => 2 + 3 * (sortedTags tags).length
  | loading _ rest => 1 + (rest.length + 2 * rest.flatten.length)
  | returned _ | raised _ => 0

def Call.work (call : Call) : Nat := call.control.work + total (fun l => l.stage.rank) call.wave

theorem Loader.Step.rank_lt (step : l.Step supply a l') : l'.stage.rank < l.stage.rank := by
  cases step with
  | asked => exact Nat.lt_succ_self 1
  | ended => exact Nat.lt_succ_self 0

theorem ranks_fresh (wave : List String) :
    total (fun l => l.stage.rank) (fresh wave) = 2 * wave.length := by
  induction wave with
  | nil => rfl
  | cons tag wave ih =>
    have first : total (fun l => l.stage.rank) (fresh (tag :: wave)) =
        2 + total (fun l => l.stage.rank) (fresh wave) := rfl
    rw [first, ih, List.length_cons]
    omega

theorem Call.Step.work_lt (step : Call.Step supply limit call a call') :
    call'.work < call.work := by
  cases step with
  | @chose tags wave rest full cut =>
    have whole := congrArg List.length (flatten_of_batch cut)
    have waves := length_cut_le cut
    rw [List.flatten_cons, List.length_append] at whole
    rw [List.length_cons] at waves
    simp only [Call.work, Control.work, ranks_fresh, total]
    omega
  | load step =>
    have less := step.rank_lt
    simp only [Call.work, total_middle]
    omega
  | next =>
    simp only [Call.work, Control.work, ranks_fresh, List.length_cons, List.flatten_cons,
      List.length_append]
    omega
  | _ =>
    simp only [Call.work, Control.work]
    omega

end Selection

def Deed.ofCall? : Deed → Option (Nat × Action)
  | ofCall i a => some (i, a)
  | ofSelection _ _ => none

/-- What the calls beside the selections have done. -/
def callTrace (trace : List Deed) : Trace := trace.filterMap Deed.ofCall?

namespace Manager

def work (m : Manager) : Nat := m.state.work + total Selection.Call.work m.selections

/-- The selection of a number stands as one of the given tags. -/
def Stands (supply : Supply) (m : Manager) (i : Nat) (tags : List String) : Prop :=
  ∃ call, m.selections[i]? = some call ∧ call.Stands supply tags

variable {w : World} {c : Cache} {inputs : List (List Dependency)} {chosen : List (List String)}
  {trace done : List Deed} {m m' : Manager} {i : Nat}

theorem stands_start (supply : Supply) (c : Cache) (inputs : List (List Dependency))
    (asked : chosen[i]? = some tags) : (start c inputs chosen).Stands supply i tags := by
  refine ⟨⟨.idle tags, []⟩, ?_, .idle⟩
  rw [start, List.getElem?_map, asked]
  rfl

theorem Step.stands (positive : 1 ≤ limit) (step : Step w supply limit m done m')
    (stands : m.Stands supply i tags) : m'.Stands supply i tags := by
  obtain ⟨call, current, stands⟩ := stands
  cases step with
  | call step => exact ⟨call, current, stands⟩
  | @selection s before after k k' a step =>
    by_cases mine : before.length = i
    · subst mine
      have same : k = call := by simpa using current
      subst same
      exact ⟨k', getElem?_middle before k' after, step.stands positive stands⟩
    · exact ⟨call, (getElem?_beside mine k' k after).trans current, stands⟩

theorem Step.not_asked (step : Step w supply limit m done m') (stands : m.Stands supply i tags)
    (empty : "" ∈ tags) (package : String) : .ofSelection i (.asked package) ∉ done := by
  obtain ⟨call, current, stands⟩ := stands
  intro mem
  cases step with
  | call step =>
    obtain ⟨e, -, same⟩ := List.mem_map.mp mem
    cases same
  | @selection s before after k k' a step =>
    obtain ⟨rfl, rfl⟩ := Deed.ofSelection.inj (List.mem_singleton.mp mem)
    have same : k = call := by simpa using current
    subst same
    exact step.ne_asked stands empty package rfl

theorem Step.work_lt (step : Step w supply limit m done m') : m'.work < m.work := by
  cases step with
  | call step =>
    have less := step.work_lt
    simp only [work]
    omega
  | selection step =>
    have less := step.work_lt
    simp only [work, total_middle]
    omega

theorem Run.stands (positive : 1 ≤ limit) (run : Run w supply limit (start c inputs chosen) trace m)
    (asked : chosen[i]? = some tags) : m.Stands supply i tags := by
  induction run with
  | nil => exact stands_start supply c inputs asked
  | snoc run step ih => exact step.stands positive ih

theorem Run.not_asked (positive : 1 ≤ limit)
    (run : Run w supply limit (start c inputs chosen) trace m) (asked : chosen[i]? = some tags)
    (empty : "" ∈ tags) (package : String) : .ofSelection i (.asked package) ∉ trace := by
  induction run with
  | nil => exact List.not_mem_nil
  | snoc run step ih =>
    rw [List.mem_append, not_or]
    exact ⟨ih, step.not_asked (run.stands positive asked) empty package⟩

/-- Without the selections, a run is a run of the calls on their own. -/
theorem Run.callTrace (run : Run w supply limit m trace m') :
    Resolution.Run w limit m.state (callTrace trace) m'.state := by
  induction run with
  | nil => exact .nil
  | @snoc _ done _ _ run step ih =>
    rw [Resolution.callTrace, List.filterMap_append]
    cases step with
    | @call _ _ done _ step =>
      have all : (done.map fun e => Deed.ofCall e.1 e.2).filterMap Deed.ofCall? = done := by
        simp [List.filterMap_map, Function.comp_def, Deed.ofCall?]
      rw [all]
      exact ih.snoc step
    | selection step =>
      have none : ∀ k b, [Deed.ofSelection k b].filterMap Deed.ofCall? = [] := fun _ _ => rfl
      rw [none, List.append_nil]
      exact ih

/-- All runs end, and they end as their last managers do. -/
theorem EndsIn.of_run {first : Manager} {p : Manager → Prop}
    (last : ∀ trace m, Run w supply limit first trace m →
      (∀ done m', ¬ Step w supply limit m done m') → p m) : EndsIn w supply limit p first :=
  holds_of_work_lt work (fun _ _ _ _ => Run.snoc) (fun _ _ _ => Step.work_lt)
    (fun trace m run later => .intro (last trace m run) later) [] first .nil

/-- Whatever calls and other selections are under way, a selection ends with what its tags come
to. -/
theorem ends_selection (positive : 1 ≤ limit) (asked : chosen[i]? = some tags) :
    EndsIn w supply limit
      (fun m => ∃ call, m.selections[i]? = some call ∧
        call.control = .ofOutcome (supply.selection (sortedTags tags)))
      (start c inputs chosen) := by
  apply EndsIn.of_run
  intro trace m run stuck
  obtain ⟨call, current, stands⟩ := run.stands positive asked
  rcases stands.exists_step limit with ⟨a, call', step⟩ | finished
  · obtain ⟨before, after, split⟩ := List.append_of_mem (List.mem_of_getElem? current)
    obtain ⟨state, selections⟩ := m
    obtain rfl : selections = before ++ call :: after := split
    exact absurd (.selection step) (stuck _ _)
  · exact ⟨call, current, finished⟩

end Manager

theorem mapM_value {α β : Type} (f : α → Journaled β) (xs : List α) :
    (xs.mapM f).value = xs.map fun x => (f x).value := by
  induction xs with
  | nil => rfl
  | cons x xs ih =>
    rw [List.mapM_cons, Journaled.value_bind, Journaled.value_bind, ih]
    rfl

theorem loadBuiltin_value (unbroken : ∀ package, supply.breaks package = none) (tag : String) :
    (loadBuiltin supply.sources tag).value = supply.outcome tag := by
  have loaded : (builtinDocuments supply.sources (builtinPackage tag)).run.value =
      supply.load (builtinPackage tag) := by
    rw [builtinDocuments, Journaled.run_bind_value, Supply.load, unbroken]
    cases (supply.sources .general (builtinPackage tag) "").run.value <;> rfl
  rw [Supply.outcome, ← loaded]
  rfl

theorem loadBuiltins_value (unbroken : ∀ package, supply.breaks package = none)
    (waves : List (List String)) :
    (loadBuiltins supply.sources waves).value =
      .ok (waves.flatten.flatMap supply.contribution) := by
  induction waves with
  | nil => rfl
  | cons wave rest ih =>
    have loaded : (wave.mapM (loadBuiltin supply.sources)).value = wave.map supply.outcome := by
      rw [mapM_value]
      exact List.map_congr_left fun tag _ => loadBuiltin_value unbroken tag
    rw [loadBuiltins, Journaled.value_bind, Journaled.value_bind, loaded,
      Selection.gather_outcomes, Journaled.value_bind, ih, List.flatten_cons, List.flatMap_append]
    rfl

theorem resolveBuiltins_value (unbroken : ∀ package, supply.breaks package = none)
    (positive : 1 ≤ limit) (tags : List String) :
    (resolveBuiltins supply.sources limit tags).value =
      supply.selection (sortedTags tags) := by
  rw [selection_sortedTags, resolveBuiltins]
  by_cases empty : "" ∈ tags
  · rw [if_pos empty, if_pos (by simpa using empty)]
    rfl
  · rw [if_neg empty, if_neg (by simpa using empty), batch_of_one_le _ positive]
    dsimp only
    rw [loadBuiltins_value unbroken, flatten_waves]

theorem resolveBuiltins_events (sources : Registry.Sources) (limit : Nat) (empty : "" ∈ tags) :
    (resolveBuiltins sources limit tags).events = [] := by
  rw [resolveBuiltins, if_pos (by simpa using empty)]
  rfl

/-- What becomes of a selection of tags: whatever calls share the manager, and whatever their cache
holds, every run ends with one outcome, as does the selection on its own; the calls go on as they
would without it; and where a tag is empty it makes no request. -/
structure Selection.ComesTo (supply : Supply) (limit : Nat) (tags : List String)
    (outcome : Outcome) : Prop where
  ends : ∀ (w : World) (c : Cache) (inputs : List (List Dependency)) (chosen : List (List String))
    (i : Nat), chosen[i]? = some tags →
    Manager.EndsIn w supply limit
      (fun m => ∃ call, m.selections[i]? = some call ∧ call.control = .ofOutcome outcome)
      (.start c inputs chosen)
  alone : (∀ package, supply.breaks package = none) →
    (resolveBuiltins supply.sources limit tags).value = outcome
  beside : ∀ (w : World) (c : Cache) (inputs : List (List Dependency))
    (chosen : List (List String)) (trace : List Deed) (m : Manager),
    Manager.Run w supply limit (.start c inputs chosen) trace m →
    Run w limit (.start c inputs) (callTrace trace) m.state
  unasked : "" ∈ tags → ∀ (w : World) (c : Cache) (inputs : List (List Dependency))
    (chosen : List (List String)) (i : Nat) (trace : List Deed) (m : Manager),
    chosen[i]? = some tags → Manager.Run w supply limit (.start c inputs chosen) trace m →
    ∀ package, .ofSelection i (.asked package) ∉ trace
  silent : "" ∈ tags → (resolveBuiltins supply.sources limit tags).events = []

theorem Selection.comesTo_sortedTags (supply : Supply) (positive : 1 ≤ limit)
    (tags : List String) :
    Selection.ComesTo supply limit tags (supply.selection (sortedTags tags)) where
  ends _ _ _ _ _ asked := Manager.ends_selection positive asked
  alone unbroken := resolveBuiltins_value unbroken positive tags
  beside _ _ _ _ _ _ run := run.callTrace
  unasked empty _ _ _ _ _ _ _ asked run := run.not_asked positive asked empty
  silent empty := resolveBuiltins_events supply.sources limit empty

/-- Two selections of the same tags come to the same, at whatever limits: to the documents of the
tags in order, each tag once, or to a fault if one of the tags is empty. -/
theorem selections_of_one_set (supply : Supply) {limit' : Nat} (positive : 1 ≤ limit)
    (positive' : 1 ≤ limit') (same : ∀ tag, tag ∈ tags ↔ tag ∈ tags') :
    ∃ ordered : List String, ordered.Pairwise (· < ·) ∧ (∀ tag, tag ∈ ordered ↔ tag ∈ tags) ∧
      Selection.ComesTo supply limit tags (supply.selection ordered) ∧
      Selection.ComesTo supply limit' tags' (supply.selection ordered) := by
  refine ⟨sortedTags tags, sortedTags_pairwise tags, fun _ => mem_sortedTags, ?_, ?_⟩
  · exact Selection.comesTo_sortedTags supply positive tags
  · rw [sortedTags_eq same]
    exact Selection.comesTo_sortedTags supply positive' tags'

/-- Every package has one file, and one of the packages breaks off. -/
def brittleSupply : Supply where
  sources _ _ _ := pure ⟨"", [⟨"index.d.ts", [120]⟩]⟩
  breaks package := if package = "@types/node" then some (.unexpected "OSError" "") else none
  respectful kind name version told := by cases told
  blameless package := by split <;> simp

theorem selections_of_node_and_react :
    1 ≤ 1 ∧ 1 ≤ 20 ∧ (∀ tag, tag ∈ ["react", "node"] ↔ tag ∈ ["node", "react", "node"]) ∧
      ∃ ordered : List String, ordered.Pairwise (· < ·) ∧
        (∀ tag, tag ∈ ordered ↔ tag ∈ ["react", "node"]) ∧
        Selection.ComesTo brittleSupply 1 ["react", "node"] (brittleSupply.selection ordered) ∧
        Selection.ComesTo brittleSupply 20 ["node", "react", "node"]
          (brittleSupply.selection ordered) := by
  have same : ∀ tag, tag ∈ ["react", "node"] ↔ tag ∈ ["node", "react", "node"] := by
    intro tag
    simp only [List.mem_cons, List.not_mem_nil, or_false]
    tauto
  exact ⟨by decide, by decide, same,
    selections_of_one_set brittleSupply (by decide) (by decide) same⟩

end AmbientTypes.Resolution
