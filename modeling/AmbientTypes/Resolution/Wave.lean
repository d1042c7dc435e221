namespace AmbientTypes.Resolution

/-- Cuts a list into waves of `size + 1`; only the last may be shorter. -/
def waves {α : Type} (size : Nat) (items : List α) : List (List α) :=
  match items with
  | [] => []
  | x :: rest => (x :: rest.take size) :: waves size (rest.drop size)
termination_by items.length
decreasing_by simp only [List.length_drop, List.length_cons]; omega

structure SizeFault where
  size : Int
  deriving DecidableEq, Repr

def SizeFault.message (f : SizeFault) : String := s!"batch size must be >= 1, got {f.size}"

/-- Cuts a list into waves of at most `size`. -/
def batch {α : Type} (items : List α) (size : Int) : Except SizeFault (List (List α)) :=
  if size < 1 then .error ⟨size⟩ else .ok (waves (size.toNat - 1) items)

end AmbientTypes.Resolution
