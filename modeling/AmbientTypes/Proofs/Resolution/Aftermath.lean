import AmbientTypes.Proofs.Resolution.Containment

namespace AmbientTypes.Resolution

/-- Those packages that have names. -/
def named (ds : List Dependency) : List Dependency := ds.filter (!·.name.isEmpty)

/-- The packages of waves up to the first with a package without a name. -/
def throughNameless : List (List Dependency) → List Dependency
  | [] => []
  | wave :: rest =>
    if wave.any (·.name.isEmpty) then wave else wave ++ throughNameless rest

/-- The packages that a call dispatches. -/
def dispatchedBy (limit : Nat) (c : Cache) (ds : List Dependency) : List Dependency :=
  throughNameless (waves (limit - 1) (pending c ds))

/-- What is pending by a cache, without the keys of packages that have been dispatched besides. -/
def pendingBeside (c : Cache) (dispatched ds : List Dependency) : List Dependency :=
  (pending c ds).filter fun d => d.key ∉ dispatched.map Dependency.key

/-- The documents of what is pending and has a name, but for what has been dispatched. -/
def remaining (sources : Registry.Sources) (c : Cache) (dispatched ds : List Dependency) :
    List Document :=
  (pendingBeside c dispatched (named ds)).flatMap (found sources)

/-- A cache that has come to know the keys of some packages, while nothing else is in flight. -/
structure Cache.Dispatches (c : Cache) (dispatched : List Dependency) (c' : Cache) : Prop where
  resolved : ∀ key, key ∈ c'.resolved ↔
    key ∈ c.resolved ∨ key ∈ dispatched.map Dependency.key
  inFlight : ∀ key, key ∈ c'.inFlight ↔ key ∈ c.inFlight

variable {w : World} {sources : Registry.Sources} {limit : Nat} {c c' : Cache}
  {ds dispatched : List Dependency} {actions : List Action} {call : Call} {d : Dependency}
  {trace : Trace} {s : State}

theorem named_of_mem_named (mem : d ∈ named ds) : d.name ≠ "" := by
  simpa using (List.mem_filter.mp mem).2

theorem throughNameless_append {before : List (List Dependency)} {wave : List Dependency}
    (rest : List (List Dependency)) (good : ∀ d ∈ before.flatten, d.name ≠ "")
    (bad : ∃ d ∈ wave, d.name = "") :
    throughNameless (before ++ wave :: rest) = (before ++ [wave]).flatten := by
  induction before with
  | nil =>
    have offended : wave.any (·.name.isEmpty) = true := by simpa using bad
    rw [List.nil_append, throughNameless, if_pos offended]
    simp
  | cons first before ih =>
    have unoffended : ¬ first.any (·.name.isEmpty) = true := by
      intro offended
      obtain ⟨d, mem, nameless⟩ := List.any_eq_true.mp offended
      exact good d (List.mem_append_left _ mem) (by simpa using nameless)
    rw [List.cons_append, throughNameless, if_neg unoffended,
      ih fun d mem => good d (List.mem_append_right _ mem)]
    simp

theorem pendingAfter_eq_filter {keys seen seen' : List String}
    (known : ∀ key, c'.holds key = true ↔ c.holds key = true ∨ key ∈ keys)
    (agree : ∀ key, key ∉ keys → (key ∈ seen' ↔ key ∈ seen)) (ds : List Dependency) :
    pendingAfter c' seen' ds = (pendingAfter c seen ds).filter fun d => d.key ∉ keys := by
  -- the lists of seen keys differ in dispatched keys only, which the later cache holds anyway
  induction ds generalizing seen seen' with
  | nil => simp [pendingAfter]
  | cons d ds ih =>
    rw [pendingAfter, pendingAfter]
    by_cases gone : d.key ∈ keys
    · have held : c'.holds d.key = true := (known _).mpr (.inr gone)
      rw [if_pos (by simp [held])]
      split
      · exact ih agree
      · rw [List.filter_cons_of_neg (by simpa using gone)]
        apply ih
        intro key other
        have differ : key ≠ d.key := fun same => other (same ▸ gone)
        rw [agree key other, List.mem_cons, or_iff_right differ]
    · have same : (seen'.contains d.key || c'.holds d.key) =
          (seen.contains d.key || c.holds d.key) := by
        rw [Bool.eq_iff_iff, Bool.or_eq_true, Bool.or_eq_true, known, List.contains_iff_mem,
          List.contains_iff_mem, agree _ gone, or_iff_left gone]
      rw [same]
      split
      · exact ih agree
      · rw [List.filter_cons_of_pos (by simpa using gone), ih]
        intro key other
        rw [List.mem_cons, List.mem_cons, agree key other]

theorem Cache.Dispatches.pending_eq (grown : c.Dispatches dispatched c') (ds : List Dependency) :
    pending c' ds = pendingBeside c dispatched ds := by
  apply pendingAfter_eq_filter
  · intro key
    rw [Cache.holds_iff, Cache.holds_iff, grown.resolved, grown.inFlight, or_right_comm]
  · exact fun _ _ => Iff.rfl

theorem running_eq_nil_of_isQuiet (quiet : call.IsQuiet) : call.running = [] := by
  rw [Call.running, List.flatMap_eq_nil_iff]
  intro l mem
  obtain ⟨outcome, stage⟩ := quiet l mem
  simp [Loader.running, stage, Stage.isRunning]

theorem History.named_of_isGood {stage : Stage} (history : History w d stage actions)
    (good : stage.isGood = true) (fresh : .refused d ∉ actions) : d.name ≠ "" := by
  intro nameless
  cases stage with
  | ended outcome =>
    rcases history.eq_error_of_nameless nameless with ⟨refused, -⟩ | failed
    · exact fresh refused
    · subst failed
      cases good
  | _ => cases good

theorem Working.dispatchedBy_eq {done : List (List Loader)} {rest : List (List Dependency)}
    (state : Working w limit c ds done rest actions call)
    (good : ∀ l ∈ done.flatten, l.dependency.name ≠ "")
    (bad : ∃ l ∈ call.wave, l.dependency.name = "") :
    dispatchedBy limit c ds = (done ++ [call.wave]).flatten.map Loader.dependency := by
  have good' : ∀ d ∈ (done.map (·.map Loader.dependency)).flatten, d.name ≠ "" := by
    intro d mem
    rw [← List.map_flatten] at mem
    obtain ⟨l, lmem, rfl⟩ := List.mem_map.mp mem
    exact good l lmem
  have bad' : ∃ d ∈ call.wave.map Loader.dependency, d.name = "" := by
    obtain ⟨l, mem, nameless⟩ := bad
    exact ⟨_, List.mem_map_of_mem mem, nameless⟩
  have cut := (of_batch state.cut).2
  rw [List.map_append, List.append_assoc] at cut
  rw [dispatchedBy, ← cut, List.map_flatten, List.map_append]
  exact throughNameless_append rest good' bad'

theorem Stage.ended_of_isGood {stage : Stage} (good : stage.isGood = true) :
    ∃ outcome, stage = .ended outcome := by
  cases stage with
  | ended outcome => exact ⟨outcome, rfl⟩
  | _ => cases good

/-- Where none is refused, the loaders that have taken their keys are those of the waves up to the
one that raises. -/
theorem Tracked.took_iff_of_raised (tracked : Tracked w limit c ds actions call)
    (positive : 1 ≤ limit) {e : Fault} (raised : call.control = .raised e) (quiet : call.IsQuiet)
    (fresh : ∀ d, .refused d ∉ actions) :
    .took d ∈ actions ↔ d ∈ dispatchedBy limit c ds := by
  cases tracked with
  | idle => cases raised
  | nothing => cases raised
  | badSize uncut =>
    rw [batch_of_one_le _ positive] at uncut
    cases uncut
  | @working done rest _ _ state =>
    have unrefused : ∀ d, .refused d ∉ about d actions :=
      fun d refused => fresh d (mem_about.mp refused).1
    have good : ∀ l ∈ done.flatten, l.dependency.name ≠ "" := by
      intro l mem
      have history := state.history l (by simp [mem])
      exact history.named_of_isGood (state.good l mem) (unrefused _)
    have bad : ∃ l ∈ call.wave, l.dependency.name = "" := by
      have fits := state.fits
      rw [raised] at fits
      obtain ⟨d, mem⟩ := fits
      refine ⟨_, mem, ?_⟩
      apply Classical.byContradiction
      intro name
      obtain ⟨found, ok⟩ := (state.history _ (mem_flatten_of_mem_last done mem)).ok_of_named name
      cases ok
    rw [state.dispatchedBy_eq good bad, List.mem_map]
    constructor
    · exact fun took => state.only _ took d rfl
    · intro h
      obtain ⟨l, mem, rfl⟩ := h
      have ended : ∃ outcome, l.stage = .ended outcome := by
        rw [List.flatten_append, List.mem_append] at mem
        rcases mem with early | last
        · exact Stage.ended_of_isGood (state.good l early)
        · exact quiet l (by simpa using last)
      obtain ⟨outcome, stage⟩ := ended
      have history := state.history l mem
      rw [stage] at history
      rcases history.taken_or_refused with took | refused
      · exact (mem_about.mp took).1
      · exact absurd refused (unrefused _)

theorem Run.mem_keys_takers_iff_of_raised (run : Run w limit (.start c [ds]) trace s)
    (positive : 1 ≤ limit) (alone : s.calls = [call]) {e : Fault}
    (raised : call.control = .raised e) (quiet : call.IsQuiet) (key : String) :
    key ∈ (takers trace).map (·.2.key) ↔
      key ∈ (dispatchedBy limit c ds).map Dependency.key := by
  obtain ⟨call', alone', tracked, -⟩ := run.isolated
  cases alone.symm.trans alone'
  have took_iff : ∀ d, .took d ∈ own 0 trace ↔ d ∈ dispatchedBy limit c ds :=
    fun d => tracked.took_iff_of_raised positive raised quiet run.not_refused
  rw [List.mem_map, List.mem_map]
  constructor
  · intro h
    obtain ⟨e, taken, rfl⟩ := h
    exact ⟨e.2, (took_iff _).mp (run.mem_takers_isolated taken).1, rfl⟩
  · intro h
    obtain ⟨d, mem, rfl⟩ := h
    exact ⟨(0, d), mem_takers.mpr ((took_iff d).mpr mem), rfl⟩

theorem Control.eq_error_of_ofOutcome {outcome : Outcome} {e : Fault}
    (raised : Control.ofOutcome outcome = .raised e) : outcome = .error e := by
  cases outcome with
  | ok found => cases raised
  | error e' => rw [Control.raised.inj raised]

/-- A call for something without a name raises. When its loaders have ended, the keys of what it has
dispatched are known, and nothing else is in flight than before. -/
theorem Run.raised (run : Run w limit (.start c [ds]) trace s) (positive : 1 ≤ limit)
    (offended : HasNameless c ds) (alone : s.calls = [call]) (finished : call.control.isOver = true)
    (quiet : call.IsQuiet) :
    call.control = .raised (.declaration .emptyName) ∧
      c.Dispatches (dispatchedBy limit c ds) s.cache := by
  obtain ⟨call', alone', tracked, -⟩ := run.isolated
  cases alone.symm.trans alone'
  rcases run.contained positive alone finished with ⟨-, e, raised, -⟩ | ⟨unoffended, -⟩
  · obtain ⟨-, rfl⟩ := tracked.nameless_of_raised positive raised
    refine ⟨raised, ?_, ?_⟩ <;> intro key
    · rw [← run.mem_keys_takers_iff_of_raised positive alone raised quiet]
      have count := run.balanced.resolved key
      rw [← List.count_pos_iff, ← List.count_pos_iff, ← List.count_pos_iff]
      omega
    · have none : s.running = [] := by
        rw [State.running, alone, List.flatMap_singleton]
        exact running_eq_nil_of_isQuiet quiet
      have count := run.balanced.inFlight key
      rw [none, List.count_nil, Nat.zero_add] at count
      rw [← List.count_pos_iff, ← List.count_pos_iff, count]
  · exact absurd offended unoffended

theorem pendingBeside_nil (c : Cache) (ds : List Dependency) :
    pendingBeside c [] ds = pending c ds := by
  simp [pendingBeside]

theorem returns_pending (respectful : Respectful sources) (c : Cache) (positive : 1 ≤ limit)
    (names : ∀ d ∈ ds, d.name ≠ "") :
    EndsIn (.ofSources sources respectful) limit
      (fun s => s.calls.map (·.control) = [.returned ((pending c ds).flatMap (found sources))])
      (.start c [ds]) ∧
    ((resolve sources limit ds).run c).value.1 = .ok ((pending c ds).flatMap (found sources)) := by
  obtain ⟨ends, given, returned, same⟩ := returns_of_answer respectful c positive names
    (p := (· = (pending c ds).flatMap (found sources))) (answer_eq_flatMap sources c ds)
  refine ⟨ends.mono ?_, same ▸ returned⟩
  intro s h
  obtain ⟨given, returned, same⟩ := h
  exact same ▸ returned

/-- A call for something without a name raises. When its loaders have ended, a call for what has
names gives the documents that it would have given before, but for the packages that the first call
has dispatched: those of its waves up to the first with a package without a name. This holds however
the loaders interleave, and of the resolutions that load one package after the other. -/
theorem violation_costs_what_was_dispatched (respectful : Respectful sources) (c : Cache)
    (positive : 1 ≤ limit) (offended : HasNameless c ds) :
    let world := World.ofSources sources respectful
    let lost := dispatchedBy limit c ds
    EndsIn world limit
      (fun s => (∃ call, s.calls = [call] ∧ call.control = .raised (.declaration .emptyName) ∧
          call.IsQuiet) ∧
        EndsIn world limit
          (fun s' => s'.calls.map (·.control) = [.returned (remaining sources c lost ds)])
          (.start s.cache [named ds]))
      (.start c [ds]) ∧
    EndsIn world limit
      (fun s => s.calls.map (·.control) = [.returned (remaining sources c [] ds)])
      (.start c [named ds]) ∧
    ∃ c', ((resolve sources limit ds).run c).value = (.error (.declaration .emptyName), c') ∧
      ((resolve sources limit (named ds)).run c').value.1 = .ok (remaining sources c lost ds) ∧
      ((resolve sources limit (named ds)).run c).value.1 = .ok (remaining sources c [] ds) := by
  intro world lost
  have names : ∀ d ∈ named ds, d.name ≠ "" := fun d mem => named_of_mem_named mem
  obtain ⟨before, before'⟩ := returns_pending respectful c positive names
  rw [← pendingBeside_nil] at before before'
  have later : ∀ c', c.Dispatches lost c' →
      EndsIn world limit
        (fun s' => s'.calls.map (·.control) = [.returned (remaining sources c lost ds)])
        (.start c' [named ds]) ∧
      ((resolve sources limit (named ds)).run c').value.1 = .ok (remaining sources c lost ds) := by
    intro c' grown
    have returned := returns_pending respectful c' positive names
    rwa [grown.pending_eq] at returned
  refine ⟨?_, before, ?_⟩
  · apply EndsIn.of_isQuiet (World.total_ofSources sources respectful)
    intro trace s run finished
    obtain ⟨call, alone, -, -⟩ := run.isolated
    obtain ⟨isOver, quiet⟩ := finished call (by simp [alone])
    obtain ⟨raised, grown⟩ := run.raised positive offended alone isOver quiet
    exact ⟨⟨call, alone, raised, quiet⟩, (later s.cache grown).1⟩
  · obtain ⟨call, control, quiet, trace, run⟩ := reaches_resolve_quiet respectful limit ds c
    have isOver : call.control.isOver = true := control ▸ Control.isOver_ofOutcome _
    obtain ⟨raised, grown⟩ := run.raised positive offended rfl isOver quiet
    have failed := Control.eq_error_of_ofOutcome (control.symm.trans raised)
    exact ⟨_, Prod.ext failed rfl, (later _ grown).2, before'⟩

def namelessPackage : Dependency := ⟨"", "", ""⟩

/-- A package without a name behind one that has a name, and before another one. -/
def offendedList : List Dependency := [plainPackage, namelessPackage, ⟨"", "vue", ""⟩]

theorem dispatchedBy_offendedList :
    dispatchedBy 1 .empty offendedList = [plainPackage, namelessPackage] := by
  have chosen : pending .empty offendedList = offendedList := by decide
  rw [dispatchedBy, chosen]
  simp [offendedList, waves, throughNameless, plainPackage, namelessPackage]

theorem violation_costs_two_of_three :
    HasNameless .empty offendedList ∧
    ∃ c', ((resolve plainSources 1 offendedList).run .empty).value =
        (.error (.declaration .emptyName), c') ∧
      ((resolve plainSources 1 (named offendedList)).run c').value.1 =
        .ok (remaining plainSources .empty [plainPackage, namelessPackage] offendedList) ∧
      ((resolve plainSources 1 (named offendedList)).run .empty).value.1 =
        .ok (remaining plainSources .empty [] offendedList) := by
  have offended : HasNameless .empty offendedList :=
    ⟨namelessPackage, by decide, by decide, by decide, rfl⟩
  have lost := violation_costs_what_was_dispatched respectful_plainSources .empty (Nat.le_refl 1)
    offended
  rw [dispatchedBy_offendedList] at lost
  exact ⟨offended, lost.2.2⟩

def Outcome.faultKind? : Outcome → Option String
  | .ok _ => none
  | .error e => some e.kind

/-- A package of the wave that raises is lost, though it has documents and a name. -/
theorem violation_costs_more_than_the_offender :
    let failed := ((resolve plainSources 2 [plainPackage, namelessPackage]).run .empty).value
    Outcome.faultKind? failed.1 = some "ValidationError" ∧
    ((resolve plainSources 2 [plainPackage]).run failed.2).value.1.toOption ≠
      ((resolve plainSources 2 [plainPackage]).run .empty).value.1.toOption := by
  constructor
  · decide +kernel
  · decide +kernel

end AmbientTypes.Resolution
