import AmbientTypes.Resolution.Wave

namespace AmbientTypes.Resolution

variable {α : Type}

theorem flatten_waves (size : Nat) (items : List α) : (waves size items).flatten = items := by
  induction items using waves.induct size with
  | case1 => simp [waves]
  | case2 x rest ih => simp [waves, ih]

theorem length_waves (size : Nat) (items : List α) :
    (waves size items).length = (items.length + size) / (size + 1) := by
  induction items using waves.induct size with
  | case1 =>
    rw [waves]
    simp only [List.length_nil, Nat.zero_add]
    exact (Nat.div_eq_of_lt (Nat.lt_succ_self size)).symm
  | case2 x rest ih =>
    rw [waves, List.length_cons, ih, List.length_drop, List.length_cons]
    by_cases short : rest.length ≤ size
    · have none : rest.length - size + size = size := by omega
      have one : rest.length + 1 + size = rest.length + (size + 1) := by omega
      rw [none, one, Nat.add_div_right _ (by omega), Nat.div_eq_of_lt (by omega),
        Nat.div_eq_of_lt (by omega)]
    · have more : rest.length - size + size = rest.length := by omega
      have one : rest.length + 1 + size = rest.length + (size + 1) := by omega
      rw [more, one, Nat.add_div_right _ (by omega)]

theorem length_le_of_mem_waves {size : Nat} {items wave : List α} (h : wave ∈ waves size items) :
    wave.length ≤ size + 1 := by
  induction items using waves.induct size with
  | case1 => simp [waves] at h
  | case2 x rest ih =>
    rw [waves, List.mem_cons] at h
    rcases h with rfl | h
    · simp only [List.length_cons, List.length_take]
      omega
    · exact ih h

theorem length_of_mem_dropLast_waves {size : Nat} {items wave : List α}
    (h : wave ∈ (waves size items).dropLast) : wave.length = size + 1 := by
  induction items using waves.induct size with
  | case1 => simp [waves] at h
  | case2 x rest ih =>
    rw [waves] at h
    by_cases last : waves size (rest.drop size) = []
    · simp [last] at h
    · rw [List.dropLast_cons_of_ne_nil last, List.mem_cons] at h
      rcases h with rfl | h
      · have longer : size < rest.length := by
          apply Nat.lt_of_not_le
          intro short
          apply last
          rw [List.drop_eq_nil_of_le short, waves]
        simp only [List.length_cons, List.length_take]
        omega
      · exact ih h

theorem of_batch {items : List α} {limit : Nat} {cut : List (List α)}
    (h : batch items limit = .ok cut) : 1 ≤ limit ∧ cut = waves (limit - 1) items := by
  unfold batch at h
  split at h
  · exact absurd h (by simp)
  · next positive =>
    refine ⟨by omega, ?_⟩
    rw [← Except.ok.inj h]
    simp

theorem batch_of_one_le (items : List α) {limit : Nat} (positive : 1 ≤ limit) :
    batch items limit = .ok (waves (limit - 1) items) := by
  unfold batch
  rw [if_neg (by omega)]
  simp

theorem flatten_of_batch {items : List α} {limit : Nat} {cut : List (List α)}
    (h : batch items limit = .ok cut) : cut.flatten = items := by
  rw [(of_batch h).2, flatten_waves]

theorem length_le_of_batch {items wave : List α} {limit : Nat} {cut : List (List α)}
    (h : batch items limit = .ok cut) (mem : wave ∈ cut) : wave.length ≤ limit := by
  obtain ⟨positive, rfl⟩ := of_batch h
  have bound := length_le_of_mem_waves mem
  omega

theorem length_of_batch {items : List α} {limit : Nat} {cut : List (List α)}
    (h : batch items limit = .ok cut) : cut.length = (items.length + limit - 1) / limit := by
  obtain ⟨positive, rfl⟩ := of_batch h
  have round : items.length + (limit - 1) = items.length + limit - 1 := by omega
  have whole : limit - 1 + 1 = limit := by omega
  rw [length_waves, round, whole]

theorem full_of_batch {items wave : List α} {limit : Nat} {cut : List (List α)}
    (h : batch items limit = .ok cut) (mem : wave ∈ cut.dropLast) : wave.length = limit := by
  obtain ⟨positive, rfl⟩ := of_batch h
  have full := length_of_mem_dropLast_waves mem
  omega

end AmbientTypes.Resolution
