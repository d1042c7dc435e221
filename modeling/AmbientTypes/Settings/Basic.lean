import AmbientTypes.Package.Builtin
import AmbientTypes.Registry.General
import AmbientTypes.Settings.Reading
import AmbientTypes.Settings.RegistryAddress

namespace AmbientTypes

structure Settings where
  registry : String := Registry.General.defaultBase
  concurrency : Nat := 5
  timeout : Float := 30.0
  builtins : List (String × Bool) := Package.defaultBuiltins
  verbose : Bool := false
  one_le_concurrency : 1 ≤ concurrency := by decide
  concurrency_le : concurrency ≤ 20 := by decide

namespace Settings

def enabledBuiltins (s : Settings) : List String := (s.builtins.filter (·.2)).map (·.1)

inductive Cause where
  | address (fault : AddressFault)
  | value (fault : ValueFault)

namespace Cause

def code : Cause → String
  | address _ => "value_error"
  | value fault => fault.code

def message : Cause → String
  | address fault => s!"Value error, {fault.message}"
  | value fault => fault.message

end Cause

structure Fault where
  place : List String
  cause : Cause

/-- How many packages are loaded at a time. -/
abbrev Concurrency := { n : Nat // 1 ≤ n ∧ n ≤ 20 }

theorem bounds_of_not_lt {n : Int} (low : ¬n < 1) (high : ¬20 < n) :
    1 ≤ n.toNat ∧ n.toNat ≤ 20 := by
  omega

def readConcurrency (v : Json) : Except ValueFault Concurrency :=
  match readWhole v with
  | .error e => .error e
  | .ok n =>
    if low : n < 1 then .error (.below 1)
    else if high : 20 < n then .error (.above 20)
    else .ok ⟨n.toNat, bounds_of_not_lt low high⟩

def readTimeout (v : Json) : Except ValueFault Float :=
  match readNumber v with
  | .error e => .error e
  | .ok x => if 0.0 < x then .ok x else .error .notPositive

/-- A result, or the faults that keep it from being read. -/
abbrev Checked (α : Type) := Except (List Fault) α

/-- A setting under its name, or its default. -/
def field {α ε : Type} (values : List (String × Json)) (name : String) (read : Json → Except ε α)
    (cause : ε → Cause) (default : α) : Checked α :=
  match Json.find? name values with
  | none => .ok default
  | some v => (read v).mapError fun e => [⟨[name], cause e⟩]

def faults {α : Type} : Checked α → List Fault
  | .ok _ => []
  | .error fs => fs

def builtinsName : String := "builtins"

def readSwitch (m : String × Json) : Checked (String × Bool) :=
  match readBoolean m.2 with
  | .ok b => .ok (m.1, b)
  | .error e => .error [⟨[builtinsName, m.1], .value e⟩]

/-- Reads switches; all of their faults are kept. -/
def readSwitches : List (String × Json) → Checked (List (String × Bool))
  | [] => .ok []
  | m :: ms =>
    match readSwitch m, readSwitches ms with
    | .ok s, .ok rest => .ok (s :: rest)
    | s, rest => .error (faults s ++ faults rest)

def readBuiltins (values : List (String × Json)) : Checked (List (String × Bool)) :=
  match Json.find? builtinsName values with
  | none => .ok Package.defaultBuiltins
  | some (.object members) => readSwitches members
  | some _ => .error [⟨[builtinsName], .value .notObject⟩]

/-- Reads settings by their names; other names do not count, and all faults are kept. -/
def ofValues (values : List (String × Json)) : Checked Settings :=
  let registry := field values "registry" readAddress .address Registry.General.defaultBase
  let concurrency := field values "max_concurrency" readConcurrency .value ⟨5, by decide⟩
  let timeout := field values "request_timeout" readTimeout .value 30.0
  let builtins := readBuiltins values
  let verbose := field values "verbose" readBoolean .value false
  match registry, concurrency, timeout, builtins, verbose with
  | .ok registry, .ok concurrency, .ok timeout, .ok builtins, .ok verbose =>
    .ok ⟨registry, concurrency.1, timeout, builtins, verbose, concurrency.2.1, concurrency.2.2⟩
  | registry, concurrency, timeout, builtins, verbose =>
    .error (faults registry ++ faults concurrency ++ faults timeout ++ faults builtins ++
      faults verbose)

end Settings

end AmbientTypes
