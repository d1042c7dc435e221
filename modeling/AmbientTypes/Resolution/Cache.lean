namespace AmbientTypes.Resolution

theorem nodup_insert {keys : List String} (distinct : keys.Nodup) (key : String) :
    (keys.insert key).Nodup := by
  by_cases known : key ∈ keys
  · rwa [List.insert_of_mem known]
  · rw [List.insert_of_not_mem known]
    exact List.nodup_cons.mpr ⟨known, distinct⟩

/-- The dispatched keys and those still being loaded. -/
structure Cache where
  resolved : List String
  inFlight : List String
  resolved_nodup : resolved.Nodup := by decide
  inFlight_nodup : inFlight.Nodup := by decide
  deriving DecidableEq, Repr

namespace Cache

def empty : Cache where
  resolved := []
  inFlight := []

def hasResolved (c : Cache) (key : String) : Bool := c.resolved.contains key

def isInFlight (c : Cache) (key : String) : Bool := c.inFlight.contains key

/-- A key that has been dispatched or is being loaded. -/
def holds (c : Cache) (key : String) : Bool := c.hasResolved key || c.isInFlight key

def markInFlight (c : Cache) (key : String) : Cache :=
  { c with
    inFlight := c.inFlight.insert key
    inFlight_nodup := nodup_insert c.inFlight_nodup key }

def clearInFlight (c : Cache) (key : String) : Cache :=
  { c with
    inFlight := c.inFlight.erase key
    inFlight_nodup := c.inFlight_nodup.erase key }

def markResolved (c : Cache) (key : String) : Cache :=
  { c with
    resolved := c.resolved.insert key
    resolved_nodup := nodup_insert c.resolved_nodup key }

/-- Takes a key that nobody has taken. -/
def acquire? (c : Cache) (key : String) : Option Cache :=
  if c.holds key then none else some ((c.markInFlight key).markResolved key)

theorem holds_iff {c : Cache} {key : String} :
    c.holds key = true ↔ key ∈ c.resolved ∨ key ∈ c.inFlight := by
  simp [holds, hasResolved, isInFlight]

theorem acquire?_eq_none_iff {c : Cache} {key : String} :
    c.acquire? key = none ↔ c.holds key = true := by
  unfold acquire?
  split <;> simp_all

/-- A key that is taken was held by neither set, and enters both. -/
theorem of_acquire? {c taken : Cache} {key : String} (h : c.acquire? key = some taken) :
    c.holds key = false ∧ taken.resolved = key :: c.resolved ∧
      taken.inFlight = key :: c.inFlight := by
  unfold acquire? at h
  split at h
  · exact absurd h (by simp)
  · next free =>
    have taken_eq := Option.some.inj h
    have absent := mt holds_iff.mpr free
    rw [not_or] at absent
    subst taken_eq
    refine ⟨by simpa using free, ?_, ?_⟩
    · exact List.insert_of_not_mem absent.1
    · exact List.insert_of_not_mem absent.2

@[simp] theorem clearInFlight_resolved (c : Cache) (key : String) :
    (c.clearInFlight key).resolved = c.resolved := rfl

@[simp] theorem clearInFlight_inFlight (c : Cache) (key : String) :
    (c.clearInFlight key).inFlight = c.inFlight.erase key := rfl

end Cache

end AmbientTypes.Resolution
