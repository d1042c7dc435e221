import AmbientTypes.Proofs.Syntax.Literal

namespace AmbientTypes.Syntax

/-- The code units of a code point. -/
def codeUnits (n : Nat) : List Nat :=
  if n < 0x10000 then [n] else [0xD800 + (n - 0x10000) / 0x400, 0xDC00 + (n - 0x10000) % 0x400]

def units (points : List Nat) : List Nat := points.flatMap codeUnits

/-- The code units of characters. -/
def textUnits (cs : List Char) : List Nat := units (cs.map Char.toNat)

def isSurrogate (n : Nat) : Bool := 0xD800 ≤ n && n < 0xE000

variable {n u : Nat} {points us : List Nat} {c : Char} {cs : List Char}

theorem units_cons (n : Nat) (points : List Nat) :
    units (n :: points) = codeUnits n ++ units points := List.flatMap_cons

theorem units_cons_of_lt (small : n < 0x10000) (points : List Nat) :
    units (n :: points) = n :: units points := by
  rw [units_cons, codeUnits, if_pos small, List.singleton_append]

theorem units_cons_of_le (large : 0x10000 ≤ n) (points : List Nat) :
    units (n :: points) = (0xD800 + (n - 0x10000) / 0x400) :: (0xDC00 + (n - 0x10000) % 0x400) ::
      units points := by
  rw [units_cons, codeUnits, if_neg (Nat.not_lt.mpr large), List.cons_append, List.singleton_append]

theorem units_eq_nil_iff : units points = [] ↔ points = [] := by
  cases points with
  | nil => exact iff_of_true rfl rfl
  | cons n points =>
    rcases Nat.lt_or_ge n 0x10000 with small | large
    · simp [units_cons_of_lt small]
    · simp [units_cons_of_le large]

theorem textUnits_cons_of_lt (small : c.toNat < 0x10000) (cs : List Char) :
    textUnits (c :: cs) = c.toNat :: textUnits cs := units_cons_of_lt small _

theorem textUnits_cons_of_le (large : 0x10000 ≤ c.toNat) (cs : List Char) :
    textUnits (c :: cs) = (0xD800 + (c.toNat - 0x10000) / 0x400) ::
      (0xDC00 + (c.toNat - 0x10000) % 0x400) :: textUnits cs := units_cons_of_le large _

theorem isSurrogate_iff : isSurrogate n = true ↔ 0xD800 ≤ n ∧ n < 0xE000 := by
  simp [isSurrogate]

/-- No text begins with the second half of a character. -/
theorem not_isLowSurrogate_of_textUnits (same : textUnits cs = u :: us) :
    ¬ (0xDC00 ≤ u ∧ u < 0xE000) := by
  cases cs with
  | nil => cases same
  | cons c cs =>
    have range := toNat_range c
    rcases Nat.lt_or_ge c.toNat 0x10000 with small | large
    · rw [textUnits_cons_of_lt small] at same
      obtain rfl := (List.cons.inj same).1
      omega
    · rw [textUnits_cons_of_le large] at same
      obtain rfl := (List.cons.inj same).1
      omega

/-- One code unit in front of a text is a code point of its own. -/
theorem exists_points_of_cons (same : units points = u :: textUnits cs) :
    ∃ later, points = u :: later ∧ units later = textUnits cs := by
  cases points with
  | nil => cases same
  | cons p points =>
    rcases Nat.lt_or_ge p 0x10000 with one | two
    · rw [units_cons_of_lt one] at same
      obtain ⟨rfl, rest⟩ := List.cons.inj same
      exact ⟨points, rfl, rest⟩
    · rw [units_cons_of_le two] at same
      refine absurd ?_ (not_isLowSurrogate_of_textUnits (List.cons.inj same).2.symm)
      omega

/-- The first character of a text is one code point, or the first of the code points is half of
it. -/
theorem exists_points_of_textUnits_cons (same : units points = textUnits (c :: cs)) :
    (∃ later, points = c.toNat :: later ∧ units later = textUnits cs) ∨
    ∃ half later, points = half :: later ∧ isSurrogate half = true := by
  have range := toNat_range c
  rcases Nat.lt_or_ge c.toNat 0x10000 with small | large
  · rw [textUnits_cons_of_lt small] at same
    exact .inl (exists_points_of_cons same)
  rw [textUnits_cons_of_le large] at same
  cases points with
  | nil => cases same
  | cons p points =>
    -- The two code units are those of one code point, or they are two code points themselves.
    rcases Nat.lt_or_ge p 0x10000 with one | two
    · rw [units_cons_of_lt one] at same
      obtain ⟨rfl, -⟩ := List.cons.inj same
      refine .inr ⟨_, points, rfl, ?_⟩
      rw [isSurrogate_iff]
      omega
    · rw [units_cons_of_le two] at same
      obtain ⟨first, rest⟩ := List.cons.inj same
      obtain ⟨second, rest⟩ := List.cons.inj rest
      have whole : p = c.toNat := by omega
      exact .inl ⟨points, by rw [whole], rest⟩

/-- Code points with the code units of a text are its characters, if there are no halves among
them. -/
theorem eq_of_units_eq (same : units points = textUnits cs)
    (whole : ∀ p ∈ points, isSurrogate p = false) : points = cs.map Char.toNat := by
  induction cs generalizing points with
  | nil =>
    obtain rfl := units_eq_nil_iff.mp same
    rfl
  | cons c cs ih =>
    rcases exists_points_of_textUnits_cons same with ⟨later, rfl, rest⟩ | ⟨half, later, rfl, first⟩
    · rw [ih rest fun p mem => whole p (List.mem_cons_of_mem _ mem)]
      rfl
    · have none := whole half List.mem_cons_self
      rw [first] at none
      cases none

end AmbientTypes.Syntax
