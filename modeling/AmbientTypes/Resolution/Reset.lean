import AmbientTypes.Resolution.Interleaving

namespace AmbientTypes.Resolution

inductive Happening where
  | did (i : Nat) (a : Action)
  | reset

/-- What the calls have done, and when the cache has been reset. -/
abbrev Chronicle := List Happening

inductive State.Change (w : World) (limit : Nat) : State → Chronicle → State → Prop where
  | step {s s' : State} {done : Trace} (step : State.Step w limit s done s') :
      State.Change w limit s (done.map fun e => .did e.1 e.2) s'
  | reset {s : State} : State.Change w limit s [.reset] ⟨.empty, s.calls⟩

/-- A run with resets. -/
inductive Course (w : World) (limit : Nat) (s : State) : Chronicle → State → Prop where
  | nil : Course w limit s [] s
  | snoc {chronicle more : Chronicle} {s' s'' : State} (course : Course w limit s chronicle s')
      (change : State.Change w limit s' more s'') : Course w limit s (chronicle ++ more) s''

end AmbientTypes.Resolution
