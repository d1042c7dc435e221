import AmbientTypes.Resolution.Resolve

namespace AmbientTypes.Resolution

open Registry

/-- What comes to loaders from outside: replies about packages, and crashes of a load that has taken
its key. Only who asks with an empty name is told so, and no crash is the fault of a caller. -/
structure World where
  replies : Kind → String → String → Except Registry.Fault Declarations → Prop
  crashes : Dependency → Fault → Prop
  eq_empty_of_replies {kind : Kind} {name version : String} :
    replies kind name version (.error .emptyName) → name = ""
  isContract_of_crashes {d : Dependency} {e : Fault} : crashes d e → e.isContract = false

/-- Sources that find fault with a name only where it is empty. -/
def Respectful (sources : Sources) : Prop :=
  ∀ kind name version, (sources kind name version).run.value = .error .emptyName → name = ""

/-- The world in which each source always says the same of a package, and nothing crashes. -/
def World.ofSources (sources : Sources) (respectful : Respectful sources) : World where
  replies kind name version reply := (sources kind name version).run.value = reply
  crashes _ _ := False
  eq_empty_of_replies told := respectful _ _ _ told
  isContract_of_crashes crash := crash.elim

inductive Stage where
  | waiting
  | asked
  | askedFallback
  | ended (outcome : Outcome)

/-- Whether the key has been taken and the load has not ended. -/
def Stage.isRunning : Stage → Bool
  | asked | askedFallback => true
  | waiting | ended _ => false

structure Loader where
  dependency : Dependency
  stage : Stage

inductive Action where
  | chose (ds : List Dependency)
  | began (wave : List Dependency)
  | took (d : Dependency)
  | refused (d : Dependency)
  | asked (d : Dependency)
  | askedFallback (d : Dependency)
  | ended (d : Dependency) (outcome : Outcome)
  | returned (found : List Document)
  | raised (fault : Fault)

/-- The outcome of a load when the declarations have come, or have not. -/
def conclude (d : Dependency) : Except Registry.Fault Declarations → Outcome
  | .error e => (settle d (.error (.registry e))).value
  | .ok types => (settle d (generate d types).run.value).value

/-- Whether a reply is followed by the question for what others have written. -/
def isFollowed (d : Dependency) : Except Registry.Fault Declarations → Bool
  | .error _ => false
  | .ok types => needsFallback d types

/-- How the load of a running loader may end. -/
inductive Concludes (w : World) (d : Dependency) : Stage → Outcome → Prop where
  | replied {reply : Except Registry.Fault Declarations}
      (told : w.replies (Kind.ofTag d.registry) d.name d.version reply)
      (enough : isFollowed d reply = false) :
      Concludes w d .asked (conclude d reply)
  | fallbackReplied {reply : Except Registry.Fault Declarations}
      (told : w.replies (Kind.ofTag d.registry) (Package.typesPackage d.name) d.version reply) :
      Concludes w d .askedFallback (conclude d (acceptFallback d reply).run.value)
  | crashed {stage : Stage} {e : Fault} (running : stage.isRunning = true)
      (crash : w.crashes d e) :
      Concludes w d stage (settle d (.error e)).value

/-- The steps of a loader, with the shared cache before and after. Taking the key and asking are one
step, and so are the end of the load and giving up the mark. -/
inductive Loader.Step (w : World) : Cache → Loader → List Action → Cache → Loader → Prop where
  | refused {c : Cache} {d : Dependency} (held : c.acquire? d.key = none) :
      Loader.Step w c ⟨d, .waiting⟩ [.refused d, .ended d (.ok [])] c ⟨d, .ended (.ok [])⟩
  | invalid {c taken : Cache} {d : Dependency} (free : c.acquire? d.key = some taken)
      (nameless : d.name = "") :
      Loader.Step w c ⟨d, .waiting⟩ [.took d, .ended d (.error (.declaration .emptyName))]
        (taken.clearInFlight d.key) ⟨d, .ended (.error (.declaration .emptyName))⟩
  | asked {c taken : Cache} {d : Dependency} (free : c.acquire? d.key = some taken)
      (named : d.name ≠ "") :
      Loader.Step w c ⟨d, .waiting⟩ [.took d, .asked d] taken ⟨d, .asked⟩
  | askedFallback {c : Cache} {d : Dependency} {reply : Except Registry.Fault Declarations}
      (told : w.replies (Kind.ofTag d.registry) d.name d.version reply)
      (more : isFollowed d reply = true) :
      Loader.Step w c ⟨d, .asked⟩ [.askedFallback d] c ⟨d, .askedFallback⟩
  | ended {c : Cache} {d : Dependency} {stage : Stage} {outcome : Outcome}
      (finished : Concludes w d stage outcome) :
      Loader.Step w c ⟨d, stage⟩ [.ended d outcome] (c.clearInFlight d.key) ⟨d, .ended outcome⟩

/-- How far a call has come; while it loads, with the documents of the waves before the last and
with the waves to come. -/
inductive Control where
  | idle (ds : List Dependency)
  | loading (found : List Document) (rest : List (List Dependency))
  | returned (found : List Document)
  | raised (fault : Fault)

/-- A call, with the loaders of its last wave. -/
structure Call where
  control : Control
  wave : List Loader

def fresh (ds : List Dependency) : List Loader := ds.map fun d => ⟨d, .waiting⟩

/-- The steps of a call. A broken contract is raised at once, though the other loaders of the wave
go on. -/
inductive Call.Step (w : World) (limit : Nat) :
    Cache → Call → List Action → Cache → Call → Prop where
  | nothing {c : Cache} {ds : List Dependency} (none : pending c ds = []) :
      Call.Step w limit c ⟨.idle ds, []⟩ [.chose [], .returned []] c ⟨.returned [], []⟩
  | chose {c : Cache} {ds wave : List Dependency} {rest : List (List Dependency)}
      (some : pending c ds ≠ []) (cut : batch (pending c ds) limit = .ok (wave :: rest)) :
      Call.Step w limit c ⟨.idle ds, []⟩ [.chose (pending c ds), .began wave] c
        ⟨.loading [] rest, fresh wave⟩
  | badSize {c : Cache} {ds : List Dependency} {e : SizeFault} (some : pending c ds ≠ [])
      (uncut : batch (pending c ds) limit = .error e) :
      Call.Step w limit c ⟨.idle ds, []⟩ [.chose (pending c ds), .raised (.size e)] c
        ⟨.raised (.size e), []⟩
  | load {c c' : Cache} {control : Control} {before after : List Loader} {l l' : Loader}
      {actions : List Action} (step : l.Step w c actions c' l') :
      Call.Step w limit c ⟨control, before ++ l :: after⟩ actions c'
        ⟨control, before ++ l' :: after⟩
  | next {c : Cache} {found more : List Document} {wave : List Dependency}
      {rest : List (List Dependency)} {loaders : List Loader} {outcomes : List Outcome}
      (all : loaders.map (·.stage) = outcomes.map .ended) (good : gather outcomes = .ok more) :
      Call.Step w limit c ⟨.loading found (wave :: rest), loaders⟩ [.began wave] c
        ⟨.loading (found ++ more) rest, fresh wave⟩
  | finish {c : Cache} {found more : List Document} {loaders : List Loader}
      {outcomes : List Outcome} (all : loaders.map (·.stage) = outcomes.map .ended)
      (good : gather outcomes = .ok more) :
      Call.Step w limit c ⟨.loading found [], loaders⟩ [.returned (found ++ more)] c
        ⟨.returned (found ++ more), loaders⟩
  | raise {c : Cache} {found : List Document} {rest : List (List Dependency)}
      {loaders : List Loader} {d : Dependency} {e : Fault}
      (bad : ⟨d, .ended (.error e)⟩ ∈ loaders) :
      Call.Step w limit c ⟨.loading found rest, loaders⟩ [.raised e] c ⟨.raised e, loaders⟩

structure State where
  cache : Cache
  calls : List Call

def State.start (cache : Cache) (inputs : List (List Dependency)) : State :=
  ⟨cache, inputs.map fun ds => ⟨.idle ds, []⟩⟩

/-- What has been done, each action by the call of the given number. -/
abbrev Trace := List (Nat × Action)

/-- A step takes one call from a wait to its next wait; in between nobody else acts. -/
inductive State.Step (w : World) (limit : Nat) : State → Trace → State → Prop where
  | call {c c' : Cache} {before after : List Call} {call call' : Call} {actions : List Action}
      (step : call.Step w limit c actions c' call') :
      State.Step w limit ⟨c, before ++ call :: after⟩ (actions.map fun a => (before.length, a))
        ⟨c', before ++ call' :: after⟩

inductive Run (w : World) (limit : Nat) (s : State) : Trace → State → Prop where
  | nil : Run w limit s [] s
  | snoc {trace done : Trace} {s' s'' : State} (run : Run w limit s trace s')
      (step : State.Step w limit s' done s'') : Run w limit s (trace ++ done) s''

/-- However its steps are ordered, every run from a state ends, and it ends in a state of the given
kind. -/
inductive EndsIn (w : World) (limit : Nat) (p : State → Prop) : State → Prop where
  | intro {s : State} (last : (∀ done s', ¬ State.Step w limit s done s') → p s)
      (later : ∀ done s', State.Step w limit s done s' → EndsIn w limit p s') :
      EndsIn w limit p s

end AmbientTypes.Resolution
