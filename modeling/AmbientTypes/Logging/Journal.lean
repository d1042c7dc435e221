import AmbientTypes.Logging.Entry

namespace AmbientTypes

inductive Event where
  | entry (e : Logging.Entry)
  | request (address : String)
  | wave (size : Nat)

namespace Event

def entry? : Event → Option Logging.Entry
  | entry e => some e
  | _ => none

def request? : Event → Option String
  | request address => some address
  | _ => none

def wave? : Event → Option Nat
  | wave size => some size
  | _ => none

end Event

/-- A result with the events on the way to it. -/
structure Journaled (α : Type) where
  value : α
  events : List Event

namespace Journaled

instance : Monad Journaled where
  pure value := ⟨value, []⟩
  bind x f :=
    let y := f x.value
    ⟨y.value, x.events ++ y.events⟩

instance : LawfulMonad Journaled :=
  LawfulMonad.mk' Journaled
    (fun x => by simp [Functor.map])
    (fun x f => by simp [pure, bind])
    (fun x f g => by simp [bind])

variable {α β : Type}

@[simp] theorem value_pure (a : α) : (pure a : Journaled α).value = a := rfl

@[simp] theorem value_bind (x : Journaled α) (f : α → Journaled β) :
    (x >>= f).value = (f x.value).value := rfl

@[simp] theorem value_map (f : α → β) (x : Journaled α) : (f <$> x).value = f x.value := rfl

/-- The value of a computation that may fail, by that of its first part. -/
theorem run_bind_value {ε : Type} (x : ExceptT ε Journaled α) (f : α → ExceptT ε Journaled β) :
    (x >>= f).run.value = match x.run.value with
      | .ok a => (f a).run.value
      | .error e => .error e := by
  rw [ExceptT.run_bind, value_bind]
  cases x.run.value <;> rfl

theorem adapt_value {ε δ : Type} (f : ε → δ) (x : ExceptT ε Journaled α) :
    (x.adapt f).run.value = x.run.value.mapError f := rfl

def record (e : Event) : Journaled Unit := ⟨(), [e]⟩

def log (severity : Logging.Severity) (event : String) (fields : List (String × Json)) :
    Journaled Unit :=
  record (.entry ⟨severity, event, fields⟩)

end Journaled

end AmbientTypes
