import AmbientTypes.Proofs.Resolution.Accounting
import AmbientTypes.Resolution.Reset
import Mathlib.Data.List.Sublists

namespace AmbientTypes.Resolution

/-- What has been done up to the last reset, and what has been done since. -/
structure Epochs where
  past : Trace
  present : Trace

def Epochs.note (e : Epochs) : Happening → Epochs
  | .did i a => ⟨e.past, e.present ++ [(i, a)]⟩
  | .reset => ⟨e.past ++ e.present, []⟩

def epochs (chronicle : Chronicle) : Epochs := chronicle.foldl Epochs.note ⟨[], []⟩

/-- A loader has ended that took the key before the last reset, and it has done so after the given
loader took the key. -/
def Overtaken (e : Epochs) (h : Nat × Dependency) : Prop :=
  ∃ j b outcome, List.Sublist [(h.1, .took h.2), (j, .ended b outcome)] e.present ∧
    (j, .took b) ∈ e.past ∧ b.key = h.2.key

/-- What a step of a call does to the marks, by what the call has done before. -/
inductive Effect (c : Cache) (actions more : List Action) (c' : Cache) : Prop where
  | kept (inFlight : c'.inFlight = c.inFlight)
      (untaken : ∀ b outcome, .ended b outcome ∈ more → .took b ∉ actions)
      (ended : ∀ b, .took b ∈ more → ∃ outcome, .ended b outcome ∈ more)
  | took (d : Dependency) (done : more = [.took d, .asked d])
      (inFlight : c'.inFlight = d.key :: c.inFlight)
  | released (d : Dependency) (outcome : Outcome) (done : more = [.ended d outcome])
      (taken : .took d ∈ actions) (inFlight : c'.inFlight = c.inFlight.erase d.key)

/-- Which keys the cache owes to the loaders that have taken them since the last reset. -/
structure Marked (e : Epochs) (s : State) : Prop where
  known : ∀ h ∈ takers e.present, h.2.key ∈ s.cache.resolved
  once : ((takers e.present).map (·.2.key)).Nodup
  marked : ∀ h ∈ holders e.present, h.2.key ∈ s.cache.inFlight ↔ ¬ Overtaken e h

variable {w : World} {limit : Nat} {c c' c₀ : Cache} {inputs : List (List Dependency)}
  {chronicle : Chronicle} {past present trace : Trace} {s s' : State} {ds : List Dependency}
  {actions more : List Action} {call call' : Call} {l l' : Loader} {d : Dependency}
  {h : Nat × Dependency} {i : Nat}

theorem epochs_append_done (chronicle : Chronicle) (done : Trace) :
    epochs (chronicle ++ done.map fun e => .did e.1 e.2) =
      ⟨(epochs chronicle).past, (epochs chronicle).present ++ done⟩ := by
  rw [epochs, List.foldl_append, ← epochs]
  generalize epochs chronicle = e
  induction done generalizing e with
  | nil => simp
  | cons a done ih => simp [ih, Epochs.note]

theorem epochs_append_reset (chronicle : Chronicle) :
    epochs (chronicle ++ [.reset]) =
      ⟨(epochs chronicle).past ++ (epochs chronicle).present, []⟩ := by
  rw [epochs, List.foldl_append]
  rfl

theorem pair_sublist_append {α : Type} {x y : α} {p q : List α} :
    List.Sublist [x, y] (p ++ q) ↔
      List.Sublist [x, y] p ∨ (x ∈ p ∧ y ∈ q) ∨ List.Sublist [x, y] q := by
  rw [List.sublist_append_iff]
  constructor
  · intro h
    obtain ⟨front, back, whole, inFront, inBack⟩ := h
    match front, back, whole with
    | [], _, rfl => exact .inr (.inr inBack)
    | [_], _, rfl =>
      exact .inr (.inl ⟨List.singleton_sublist.mp inFront, List.singleton_sublist.mp inBack⟩)
    | [_, _], [], rfl => exact .inl inFront
  · intro h
    rcases h with front | ⟨first, second⟩ | back
    · exact ⟨_, [], rfl, front, List.nil_sublist _⟩
    · exact ⟨[x], [y], rfl, List.singleton_sublist.mpr first, List.singleton_sublist.mpr second⟩
    · exact ⟨[], _, rfl, List.nil_sublist _, back⟩

theorem Tracked.history_of_wave (tracked : Tracked w limit c₀ ds actions call)
    (mem : l ∈ call.wave) : History w l.dependency l.stage (about l.dependency actions) := by
  cases tracked with
  | idle => cases mem
  | nothing => cases mem
  | badSize => cases mem
  | @working done _ _ _ state => exact state.history l (mem_flatten_of_mem_last done mem)

theorem History.untaken_of_waiting (history : History w d .waiting (about d actions)) :
    .took d ∉ actions := by
  intro took
  have own : .took d ∈ about d actions := mem_about.mpr ⟨took, rfl⟩
  generalize about d actions = history' at history own
  cases history
  cases own

theorem Loader.Step.effect (step : l.Step w c more c' l')
    (history : History w l.dependency l.stage (about l.dependency actions)) :
    Effect c actions more c' := by
  cases step with
  | @refused d held =>
    refine .kept rfl ?_ (by simp)
    intro b outcome ended
    obtain ⟨rfl, -⟩ : b = d ∧ outcome = .ok [] := by simpa using ended
    exact history.untaken_of_waiting
  | @invalid _ d free nameless =>
    have marked := (Cache.of_acquire? free).2.2
    refine .kept ?_ ?_ ?_
    · rw [Cache.clearInFlight_inFlight, marked, List.erase_cons_head]
    · intro b outcome ended
      obtain ⟨rfl, -⟩ : b = d ∧ outcome = .error (.declaration .emptyName) := by simpa using ended
      exact history.untaken_of_waiting
    · intro b took
      obtain rfl : b = d := by simpa using took
      exact ⟨_, List.mem_cons_of_mem _ List.mem_cons_self⟩
  | asked free named => exact .took _ rfl (Cache.of_acquire? free).2.2
  | askedFallback => exact .kept rfl (by simp) (by simp)
  | @ended d stage outcome finished =>
    have held := history.holding_iff.mpr finished.isRunning
    exact .released d outcome rfl (mem_about.mp held.1).1 rfl

theorem Call.Step.effect (step : call.Step w limit c more c' call')
    (tracked : Tracked w limit c₀ ds actions call) : Effect c actions more c' := by
  cases step with
  | load step => exact step.effect (tracked.history_of_wave (by simp))
  | _ => exact .kept rfl (by simp) (by simp)

theorem mem_own_append {j : Nat} {a : Action} :
    a ∈ own j (present ++ more.map fun b => (i, b)) ↔ a ∈ own j present ∨ j = i ∧ a ∈ more := by
  rw [own_append, List.mem_append]
  refine or_congr_right ?_
  rw [mem_own, List.mem_map]
  constructor
  · intro mem
    obtain ⟨b, mem, same⟩ := mem
    obtain ⟨rfl, rfl⟩ := Prod.mk.inj same
    exact ⟨rfl, mem⟩
  · exact fun mem => ⟨a, mem.2, by rw [mem.1]⟩

theorem Overtaken.of_append (lost : Overtaken ⟨past, present ++ more.map fun a => (i, a)⟩ h) :
    Overtaken ⟨past, present⟩ h ∨
      ∃ b outcome, .ended b outcome ∈ more ∧ (i, .took b) ∈ past ∧ b.key = h.2.key := by
  obtain ⟨j, b, outcome, order, earlier, same⟩ := lost
  have late : (j, Action.ended b outcome) ∈ more.map (fun a => (i, a)) →
      ∃ b outcome, .ended b outcome ∈ more ∧ (i, .took b) ∈ past ∧ b.key = h.2.key := by
    intro mem
    obtain ⟨a, mem, equal⟩ := List.mem_map.mp mem
    obtain ⟨rfl, rfl⟩ := Prod.mk.inj equal
    exact ⟨b, outcome, mem, earlier, same⟩
  rcases pair_sublist_append.mp order with old | ⟨-, new⟩ | new
  · exact .inl ⟨j, b, outcome, old, earlier, same⟩
  · exact .inr (late new)
  · exact .inr (late (new.subset (by simp)))

theorem overtaken_append (taken : (h.1, .took h.2) ∈ present) :
    Overtaken ⟨past, present ++ more.map fun a => (i, a)⟩ h ↔ Overtaken ⟨past, present⟩ h ∨
      ∃ b outcome, .ended b outcome ∈ more ∧ (i, .took b) ∈ past ∧ b.key = h.2.key := by
  refine ⟨Overtaken.of_append, ?_⟩
  intro lost
  rcases lost with ⟨j, b, outcome, order, earlier, same⟩ | ⟨b, outcome, ended, earlier, same⟩
  · exact ⟨j, b, outcome, pair_sublist_append.mpr (.inl order), earlier, same⟩
  · have new := List.mem_map_of_mem (f := fun a => (i, a)) ended
    exact ⟨i, b, outcome, pair_sublist_append.mpr (.inr (.inl ⟨taken, new⟩)), earlier, same⟩

namespace Marked

theorem known_step (marked : Marked ⟨past, present⟩ s)
    (step : call.Step w limit s.cache more c' call') (i : Nat) :
    (∀ h ∈ takers (present ++ more.map fun a => (i, a)), h.2.key ∈ c'.resolved) ∧
      ((takers (present ++ more.map fun a => (i, a))).map (·.2.key)).Nodup := by
  have grown := step.resolved_eq
  have distinct := grown ▸ c'.resolved_nodup
  rw [List.nodup_append] at distinct
  obtain ⟨each, -, apart⟩ := distinct
  have keys : ((more.filterMap Action.took?).map fun d => (i, d)).map (·.2.key) =
      (taken more).map Dependency.key := by
    rw [List.map_map]
    rfl
  rw [takers, doers_append, doers_map]
  constructor
  · intro h mem
    rw [grown, List.mem_append]
    rcases List.mem_append.mp mem with old | new
    · exact .inr (marked.known h old)
    · exact .inl (keys ▸ List.mem_map_of_mem (f := (·.2.key)) new)
  · rw [List.map_append, keys, List.nodup_append]
    refine ⟨marked.once, each, ?_⟩
    intro key old key' new same
    obtain ⟨h, taken, rfl⟩ := List.mem_map.mp old
    exact apart key' new _ (marked.known h taken) same.symm

/-- Of the loaders that have taken keys since the reset, those that have ended before a step are no
holders after it. -/
theorem mem_holders_append {j : Nat} {b : Dependency}
    (held : (j, b) ∈ holders (present ++ more.map fun a => (i, a))) :
    ((j, b) ∈ holders present ∨ j = i ∧ .took b ∈ more) ∧
      ∀ outcome, j = i → .ended b outcome ∉ more := by
  obtain ⟨took, unended⟩ := mem_holders.mp held
  simp only [mem_own_append, not_or] at took unended
  refine ⟨?_, fun outcome mine mem => (unended outcome).2 ⟨mine, mem⟩⟩
  exact took.imp (fun old => mem_holders.mpr ⟨old, fun outcome => (unended outcome).1⟩) id

theorem kept (marked : Marked ⟨past, present⟩ s) (inFlight : c'.inFlight = s.cache.inFlight)
    (untaken : ∀ b outcome, .ended b outcome ∈ more → .took b ∉ own i (past ++ present))
    (ended : ∀ b, .took b ∈ more → ∃ outcome, .ended b outcome ∈ more)
    (held : h ∈ holders (present ++ more.map fun a => (i, a))) :
    h.2.key ∈ c'.inFlight ↔ ¬ Overtaken ⟨past, present ++ more.map fun a => (i, a)⟩ h := by
  obtain ⟨took, unended⟩ := mem_holders_append held
  rcases took with old | ⟨mine, new⟩
  · rw [overtaken_append (mem_own.mp (mem_holders.mp old).1), inFlight, marked.marked h old]
    refine not_congr (iff_self_or.mpr ?_)
    intro late
    obtain ⟨b, outcome, ended, earlier, -⟩ := late
    exact absurd (mem_own.mpr (List.mem_append_left _ earlier)) (untaken b outcome ended)
  · obtain ⟨outcome, gone⟩ := ended h.2 new
    exact absurd gone (unended outcome mine)

theorem took (marked : Marked ⟨past, present⟩ s) (done : more = [.took d, .asked d])
    (inFlight : c'.inFlight = d.key :: s.cache.inFlight)
    (once : ((takers (present ++ more.map fun a => (i, a))).map (·.2.key)).Nodup)
    (held : h ∈ holders (present ++ more.map fun a => (i, a))) :
    h.2.key ∈ c'.inFlight ↔ ¬ Overtaken ⟨past, present ++ more.map fun a => (i, a)⟩ h := by
  have quiet : Overtaken ⟨past, present ++ more.map fun a => (i, a)⟩ h →
      Overtaken ⟨past, present⟩ h := by
    intro lost
    refine lost.of_append.resolve_right ?_
    simp [done]
  rw [takers, doers_append, doers_map, List.map_append, List.nodup_append] at once
  have apart : ∀ e ∈ takers present, e.2.key ≠ d.key := fun e mem =>
    once.2.2 e.2.key (List.mem_map_of_mem (f := (·.2.key)) mem) d.key (by simp [done, Action.took?])
  rw [inFlight, List.mem_cons]
  rcases (mem_holders_append held).1 with old | ⟨mine, new⟩
  · have taken := mem_own.mp (mem_holders.mp old).1
    have differ := apart h (List.mem_of_mem_filter old)
    have same : Overtaken ⟨past, present ++ more.map fun a => (i, a)⟩ h ↔
        Overtaken ⟨past, present⟩ h := ⟨quiet, fun lost => (overtaken_append taken).mpr (.inl lost)⟩
    rw [same, marked.marked h old]
    exact or_iff_right differ
  · have own : h.2 = d := by simpa [done] using new
    refine iff_of_true (.inl (by rw [own])) ?_
    intro lost
    obtain ⟨_, _, _, order, -⟩ := quiet lost
    -- nobody has taken this key since the reset
    have before : h ∈ takers present := mem_takers.mpr (mem_own.mpr (order.subset (by simp)))
    exact apart h before (by rw [own])

theorem released (marked : Marked ⟨past, present⟩ s) {outcome : Outcome}
    (done : more = [.ended d outcome]) (taken : .took d ∈ own i (past ++ present))
    (inFlight : c'.inFlight = s.cache.inFlight.erase d.key)
    (held : h ∈ holders (present ++ more.map fun a => (i, a))) :
    h.2.key ∈ c'.inFlight ↔ ¬ Overtaken ⟨past, present ++ more.map fun a => (i, a)⟩ h := by
  obtain ⟨took, unended⟩ := mem_holders_append held
  have old : h ∈ holders present := took.resolve_right (by simp [done])
  rw [overtaken_append (mem_own.mp (mem_holders.mp old).1), inFlight,
    s.cache.inFlight_nodup.mem_erase_iff, marked.marked h old, not_or, and_comm]
  refine and_congr_right fun _ => ?_
  subst done
  constructor
  · intro differ late
    obtain ⟨b, _, ended, -, same⟩ := late
    obtain ⟨rfl, -⟩ := Action.ended.inj (List.mem_singleton.mp ended)
    exact differ same.symm
  · intro none same
    rcases List.mem_append.mp (mem_own.mp taken) with earlier | since
    · exact none ⟨d, outcome, List.mem_singleton.mpr rfl, earlier, same.symm⟩
    · -- the only loader that has taken the key since the reset is the one that holds it
      have own : (i, d) ∈ takers present := mem_takers.mpr (mem_own.mpr since)
      have equal := List.inj_on_of_nodup_map marked.once (List.mem_of_mem_filter old) own same
      exact unended outcome (by rw [equal]) (by rw [equal]; exact List.mem_singleton.mpr rfl)

theorem step (marked : Marked ⟨past, present⟩ s)
    (step : call.Step w limit s.cache more c' call')
    (tracked : Tracked w limit c₀ ds (own i (past ++ present)) call) (calls : List Call) :
    Marked ⟨past, present ++ more.map fun a => (i, a)⟩ ⟨c', calls⟩ := by
  obtain ⟨known, once⟩ := marked.known_step step i
  refine ⟨known, once, ?_⟩
  intro h held
  cases step.effect tracked with
  | kept inFlight untaken ended => exact marked.kept inFlight untaken ended held
  | took d done inFlight => exact marked.took done inFlight once held
  | released d outcome done taken inFlight => exact marked.released done taken inFlight held

end Marked

namespace Course

/-- In every state of a course the calls are tracked by all they have done, and the marks are those
of the loaders since the last reset. -/
theorem tracked_marked (course : Course w limit (.start c inputs) chronicle s) :
    AllTracked w limit inputs ((epochs chronicle).past ++ (epochs chronicle).present) s ∧
      Marked (epochs chronicle) s := by
  induction course with
  | nil => exact ⟨allTracked_start w limit c inputs, ⟨by simp [epochs, doers], by
      simp [epochs, doers], by simp [epochs, holders, doers]⟩⟩
  | snoc course change ih =>
    obtain ⟨all, marked⟩ := ih
    cases change with
    | step step =>
      rw [epochs_append_done]
      refine ⟨by rw [← List.append_assoc]; exact step.allTracked all, ?_⟩
      cases step with
      | @call _ _ before after call _ _ step =>
        obtain ⟨_, -, _, tracked⟩ := all.at (getElem?_middle before call after)
        exact marked.step step tracked _
    | reset =>
      rw [epochs_append_reset]
      refine ⟨?_, ⟨by simp [doers], by simp [doers], by simp [holders, doers]⟩⟩
      rw [List.append_nil]
      exact all

/-- The key of a running loader that has taken it since the last reset is in flight, unless a loader
of the same key from before the reset has ended in the meantime. -/
theorem isInFlight_iff_not_overtaken (course : Course w limit (.start c inputs) chronicle s)
    {h : Nat × Dependency} (held : h ∈ holders (epochs chronicle).present) :
    s.cache.isInFlight h.2.key = true ↔ ¬ Overtaken (epochs chronicle) h := by
  rw [Cache.isInFlight, List.contains_iff_mem]
  exact course.tracked_marked.2.marked h held

end Course

/-- A run is a course without resets. -/
theorem Run.course {start : State} (run : Run w limit start trace s) :
    Course w limit start (trace.map fun e => .did e.1 e.2) s := by
  induction run with
  | nil => exact .nil
  | snoc run step ih =>
    rw [List.map_append]
    exact ih.snoc (.step step)

/-- A call loads a package, the cache is reset, and another call loads the same package. -/
theorem plain_course_reloading :
    ∃ chronicle, Course plainWorld 1 (.start .empty [[plainPackage], [plainPackage]]) chronicle
        ⟨loadingCache, [⟨.loading [] [], [⟨plainPackage, .asked⟩]⟩,
          ⟨.loading [] [], [⟨plainPackage, .asked⟩]⟩]⟩ ∧
      (epochs chronicle).present = [(1, .took plainPackage), (1, .asked plainPackage)] := by
  obtain ⟨trace, run⟩ := plain_run_asked
  have free : Cache.empty.acquire? plainPackage.key = some loadingCache := by decide
  have asked := @State.Step.call plainWorld 1 _ _
    [⟨.loading [] [], [⟨plainPackage, .asked⟩]⟩] [] _ _ _
    (@Call.Step.load plainWorld 1 _ _ (.loading [] []) [] [] _ _ _ (.asked free (by decide)))
  refine ⟨_, (run.course.snoc .reset).snoc (.step asked), ?_⟩
  rw [epochs_append_done, epochs_append_reset]
  rfl

theorem not_overtaken_of_plain : ∃ chronicle s,
    Course plainWorld 1 (.start .empty [[plainPackage], [plainPackage]]) chronicle s ∧
      (1, plainPackage) ∈ holders (epochs chronicle).present ∧
      s.cache.isInFlight plainPackage.key = true ∧
      ¬ Overtaken (epochs chronicle) (1, plainPackage) := by
  obtain ⟨chronicle, course, present⟩ := plain_course_reloading
  have held : (1, plainPackage) ∈ holders (epochs chronicle).present := by
    rw [present]
    decide
  have marked : loadingCache.isInFlight plainPackage.key = true := by decide
  exact ⟨chronicle, _, course, held, marked,
    (course.isInFlight_iff_not_overtaken held).mp marked⟩

/-- The loader from before the reset ends, and the mark of the one that runs is gone. -/
theorem running_without_mark : ∃ chronicle s,
    Course plainWorld 1 (.start .empty [[plainPackage], [plainPackage]]) chronicle s ∧
      (1, plainPackage) ∈ holders (epochs chronicle).present ∧
      s.cache.isInFlight plainPackage.key = false := by
  obtain ⟨chronicle, course, present⟩ := plain_course_reloading
  have told : plainWorld.replies (Registry.Kind.ofTag plainPackage.registry) plainPackage.name
      plainPackage.version (.ok ⟨"", [⟨"index.d.ts", []⟩]⟩) := rfl
  have ended := @State.Step.call plainWorld 1 loadingCache _ []
    [⟨.loading [] [], [⟨plainPackage, .asked⟩]⟩] _ _ _
    (@Call.Step.load plainWorld 1 _ _ (.loading [] []) [] [] _ _ _
      (.ended (.replied told (by decide))))
  refine ⟨_, _, course.snoc (.step ended), ?_, by decide⟩
  rw [epochs_append_done, present]
  dsimp only
  decide

end AmbientTypes.Resolution
