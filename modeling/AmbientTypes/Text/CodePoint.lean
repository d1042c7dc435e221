namespace AmbientTypes.Text

/-- Code points in a row. Half of a character is a code point of its own, also in front of the other
half. -/
abbrev Points := List Nat

def points (s : String) : Points := s.toList.map Char.toNat

def charOf? (n : Nat) : Option Char := if n.isValidChar then some (Char.ofNat n) else none

/-- The text of code points; none if half of a character is among them. -/
def ofPoints? (ps : Points) : Option String := (ps.mapM charOf?).map String.ofList

theorem points_ofList (cs : List Char) : points (String.ofList cs) = cs.map Char.toNat := by
  rw [points, String.toList_ofList]

theorem charOf?_toNat (c : Char) : charOf? c.toNat = some c := by
  have valid : c.toNat.isValidChar := c.valid
  rw [charOf?, if_pos valid, Char.ofNat_toNat]

theorem ofPoints?_points (s : String) : ofPoints? (points s) = some s := by
  have read : ∀ cs : List Char, (cs.map Char.toNat).mapM charOf? = some cs := by
    intro cs
    induction cs with
    | nil => rfl
    | cons c cs ih =>
      rw [List.map_cons, List.mapM_cons, charOf?_toNat, ih]
      rfl
  rw [ofPoints?, points, read, Option.map_some, String.ofList_toList]

theorem points_inj {s t : String} : points s = points t ↔ s = t := by
  constructor
  · intro same
    have read := ofPoints?_points s
    rw [same, ofPoints?_points] at read
    exact (Option.some.inj read).symm
  · intro same
    rw [same]

end AmbientTypes.Text
