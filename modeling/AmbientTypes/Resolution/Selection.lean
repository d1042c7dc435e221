import AmbientTypes.Resolution.Builtin
import AmbientTypes.Resolution.Interleaving

namespace AmbientTypes.Resolution

/-- Where selections have their documents from. The sources always say the same of a package. Making
documents of its declarations may break off, and never by the fault of a caller. -/
structure Supply where
  sources : Registry.Sources
  breaks : String → Option Registry.Fault
  respectful : Respectful sources
  blameless : ∀ package, breaks package ≠ some .emptyName

namespace Supply

/-- What comes of a package that is loaded as it is. -/
def load (supply : Supply) (package : String) : Except Registry.Fault (List Document) :=
  match (supply.sources .general package "").run.value, supply.breaks package with
  | .error e, _ => .error e
  | .ok _, some e => .error e
  | .ok types, none => .ok (Declaration.builtinDocuments package types)

def outcome (supply : Supply) (tag : String) : Outcome :=
  (settleBuiltin tag (builtinPackage tag) (supply.load (builtinPackage tag))).value

end Supply

namespace Selection

inductive Stage where
  | waiting
  | asked
  | ended (outcome : Outcome)

structure Loader where
  tag : String
  stage : Stage

inductive Action where
  | began (wave : List String)
  | asked (package : String)
  | ended (tag : String) (outcome : Outcome)
  | returned (found : List Document)
  | raised (fault : Fault)

inductive Loader.Step (supply : Supply) : Loader → Action → Loader → Prop where
  | asked {tag : String} :
      Loader.Step supply ⟨tag, .waiting⟩ (.asked (builtinPackage tag)) ⟨tag, .asked⟩
  | ended {tag : String} :
      Loader.Step supply ⟨tag, .asked⟩ (.ended tag (supply.outcome tag))
        ⟨tag, .ended (supply.outcome tag)⟩

/-- How far a selection has come; while it loads, with the documents of the waves before the last
and with the waves to come. -/
inductive Control where
  | idle (tags : List String)
  | loading (found : List Document) (rest : List (List String))
  | returned (found : List Document)
  | raised (fault : Fault)

def Control.ofOutcome : Outcome → Control
  | .ok found => returned found
  | .error e => raised e

/-- A selection, with the loaders of its last wave. -/
structure Call where
  control : Control
  wave : List Loader

def fresh (tags : List String) : List Loader := tags.map fun tag => ⟨tag, .waiting⟩

/-- The steps of a selection. Its tags are checked before the first wave begins, and the loaders of
a wave take their steps in any order. -/
inductive Call.Step (supply : Supply) (limit : Nat) : Call → Action → Call → Prop where
  | rejected {tags : List String} (empty : "" ∈ tags) :
      Call.Step supply limit ⟨.idle tags, []⟩ (.raised .emptyTag) ⟨.raised .emptyTag, []⟩
  | badSize {tags : List String} {e : SizeFault} (full : "" ∉ tags)
      (uncut : batch (sortedTags tags) limit = .error e) :
      Call.Step supply limit ⟨.idle tags, []⟩ (.raised (.size e)) ⟨.raised (.size e), []⟩
  | nothing {tags : List String} (full : "" ∉ tags)
      (cut : batch (sortedTags tags) limit = .ok []) :
      Call.Step supply limit ⟨.idle tags, []⟩ (.returned []) ⟨.returned [], []⟩
  | chose {tags wave : List String} {rest : List (List String)} (full : "" ∉ tags)
      (cut : batch (sortedTags tags) limit = .ok (wave :: rest)) :
      Call.Step supply limit ⟨.idle tags, []⟩ (.began wave) ⟨.loading [] rest, fresh wave⟩
  | load {control : Control} {before after : List Loader} {l l' : Loader} {a : Action}
      (step : l.Step supply a l') :
      Call.Step supply limit ⟨control, before ++ l :: after⟩ a ⟨control, before ++ l' :: after⟩
  | next {found more : List Document} {wave : List String} {rest : List (List String)}
      {loaders : List Loader} {outcomes : List Outcome}
      (all : loaders.map (·.stage) = outcomes.map .ended) (good : gather outcomes = .ok more) :
      Call.Step supply limit ⟨.loading found (wave :: rest), loaders⟩ (.began wave)
        ⟨.loading (found ++ more) rest, fresh wave⟩
  | finish {found more : List Document} {loaders : List Loader} {outcomes : List Outcome}
      (all : loaders.map (·.stage) = outcomes.map .ended) (good : gather outcomes = .ok more) :
      Call.Step supply limit ⟨.loading found [], loaders⟩ (.returned (found ++ more))
        ⟨.returned (found ++ more), loaders⟩
  | raise {found : List Document} {rest : List (List String)} {loaders : List Loader}
      {tag : String} {e : Fault} (bad : ⟨tag, .ended (.error e)⟩ ∈ loaders) :
      Call.Step supply limit ⟨.loading found rest, loaders⟩ (.raised e) ⟨.raised e, loaders⟩

end Selection

/-- Calls with their cache, and selections. -/
structure Manager where
  state : State
  selections : List Selection.Call

inductive Deed where
  | ofCall (i : Nat) (a : Action)
  | ofSelection (i : Nat) (a : Selection.Action)

namespace Manager

def start (cache : Cache) (inputs : List (List Dependency)) (chosen : List (List String)) :
    Manager :=
  ⟨.start cache inputs, chosen.map fun tags => ⟨.idle tags, []⟩⟩

inductive Step (w : World) (supply : Supply) (limit : Nat) :
    Manager → List Deed → Manager → Prop where
  | call {s s' : State} {done : Trace} {selections : List Selection.Call}
      (step : State.Step w limit s done s') :
      Step w supply limit ⟨s, selections⟩ (done.map fun e => .ofCall e.1 e.2) ⟨s', selections⟩
  | selection {s : State} {before after : List Selection.Call} {call call' : Selection.Call}
      {a : Selection.Action} (step : call.Step supply limit a call') :
      Step w supply limit ⟨s, before ++ call :: after⟩ [.ofSelection before.length a]
        ⟨s, before ++ call' :: after⟩

inductive Run (w : World) (supply : Supply) (limit : Nat) (m : Manager) :
    List Deed → Manager → Prop where
  | nil : Run w supply limit m [] m
  | snoc {trace done : List Deed} {m' m'' : Manager} (run : Run w supply limit m trace m')
      (step : Step w supply limit m' done m'') : Run w supply limit m (trace ++ done) m''

/-- However its steps are ordered, every run ends, and it ends in a manager of the given kind. -/
inductive EndsIn (w : World) (supply : Supply) (limit : Nat) (p : Manager → Prop) :
    Manager → Prop where
  | intro {m : Manager} (last : (∀ done m', ¬ Step w supply limit m done m') → p m)
      (later : ∀ done m', Step w supply limit m done m' → EndsIn w supply limit p m') :
      EndsIn w supply limit p m

end Manager

end AmbientTypes.Resolution
