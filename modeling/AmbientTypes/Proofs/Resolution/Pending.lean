import AmbientTypes.Resolution.Resolve

namespace AmbientTypes.Resolution

/-- What the places of a list contribute, in their order; of places with one key only the first
counts. -/
def placed (contribution : Dependency → List Document) (ds : List Dependency) : List Document :=
  (ds.mapIdx fun place d =>
    if (ds.take place).any (·.key = d.key) then [] else contribution d).flatten

theorem mem_pendingAfter_iff {c : Cache} {seen : List String} {ds : List Dependency}
    {d : Dependency} :
    d ∈ pendingAfter c seen ds ↔
      d.key ∉ seen ∧ c.holds d.key = false ∧ ds.find? (·.key = d.key) = some d := by
  induction ds generalizing seen with
  | nil => simp [pendingAfter]
  | cons b ds ih =>
    rw [pendingAfter, List.find?_cons]
    by_cases same : b.key = d.key
    · simp only [same, decide_true, Option.some.injEq]
      split
      · next old =>
        rw [Bool.or_eq_true, List.contains_iff_mem] at old
        have gone : d ∉ pendingAfter c seen ds := by
          rw [ih]
          intro h
          obtain ⟨unseen, free, -⟩ := h
          rcases old with old | old
          · exact unseen old
          · simp [free] at old
        constructor
        · exact fun h => absurd h gone
        · intro h
          obtain ⟨unseen, free, -⟩ := h
          rcases old with old | old
          · exact absurd old unseen
          · simp [free] at old
      · next new =>
        rw [Bool.or_eq_true, List.contains_iff_mem, not_or, Bool.not_eq_true] at new
        rw [List.mem_cons, ih]
        constructor
        · intro h
          rcases h with rfl | ⟨unseen, -⟩
          · exact ⟨new.1, new.2, rfl⟩
          · exact absurd List.mem_cons_self unseen
        · intro h
          obtain ⟨-, -, rfl⟩ := h
          exact .inl rfl
    · have differ : d ≠ b := fun equal => same (congrArg Dependency.key equal.symm)
      simp only [same, decide_false]
      split
      · exact ih
      · rw [List.mem_cons, ih, List.mem_cons]
        have differ' : d.key ≠ b.key := fun equal => same equal.symm
        simp [differ, differ']

/-- A dependency is pending where it is the first with its key and the cache does not hold it. -/
theorem mem_pending_iff {c : Cache} {ds : List Dependency} {d : Dependency} :
    d ∈ pending c ds ↔ c.holds d.key = false ∧ ds.find? (·.key = d.key) = some d := by
  rw [pending, mem_pendingAfter_iff]
  simp

theorem mem_of_mem_pending {c : Cache} {ds : List Dependency} {d : Dependency}
    (h : d ∈ pending c ds) : d ∈ ds :=
  List.mem_of_find?_eq_some (mem_pending_iff.mp h).2

theorem keys_pendingAfter_nodup (c : Cache) (seen : List String) (ds : List Dependency) :
    ((pendingAfter c seen ds).map Dependency.key).Nodup := by
  induction ds generalizing seen with
  | nil => simp [pendingAfter]
  | cons d ds ih =>
    rw [pendingAfter]
    split
    · exact ih seen
    · rw [List.map_cons, List.nodup_cons]
      refine ⟨?_, ih _⟩
      rw [List.mem_map]
      intro h
      obtain ⟨b, mem, same⟩ := h
      rw [mem_pendingAfter_iff, same] at mem
      exact mem.1 List.mem_cons_self

theorem keys_pending_nodup (c : Cache) (ds : List Dependency) :
    ((pending c ds).map Dependency.key).Nodup := keys_pendingAfter_nodup c [] ds

theorem eq_of_key_eq {c : Cache} {ds : List Dependency} {d e : Dependency}
    (hd : d ∈ pending c ds) (he : e ∈ pending c ds) (same : d.key = e.key) : d = e := by
  have found := (mem_pending_iff.mp hd).2
  rw [same, (mem_pending_iff.mp he).2] at found
  exact (Option.some.inj found).symm

theorem length_pendingAfter_le (c : Cache) (seen : List String) (ds : List Dependency) :
    (pendingAfter c seen ds).length ≤ ds.length := by
  induction ds generalizing seen with
  | nil => simp [pendingAfter]
  | cons d ds ih =>
    rw [pendingAfter]
    split
    · exact Nat.le_succ_of_le (ih seen)
    · exact Nat.succ_le_succ (ih _)

theorem length_pending_le (c : Cache) (ds : List Dependency) :
    (pending c ds).length ≤ ds.length := length_pendingAfter_le c [] ds

theorem holds_or_pending (c : Cache) {ds : List Dependency} {d : Dependency} (h : d ∈ ds) :
    c.holds d.key = true ∨ ∃ b ∈ pending c ds, b.key = d.key := by
  by_cases held : c.holds d.key = true
  · exact .inl held
  · right
    have known : (ds.find? (·.key = d.key)).isSome := by
      rw [List.find?_isSome]
      exact ⟨d, h, by simp⟩
    obtain ⟨b, found⟩ := Option.isSome_iff_exists.mp known
    have same : b.key = d.key := by simpa using List.find?_some found
    refine ⟨b, mem_pending_iff.mpr ⟨?_, ?_⟩, same⟩
    · simpa [same] using held
    · simpa [same] using found

theorem flatMap_pendingAfter {c : Cache} {contribution : Dependency → List Document}
    {ds : List Dependency} (before : List Dependency) (seen : List String)
    (agree : ∀ key, c.holds key = false → (key ∈ seen ↔ ∃ b ∈ before, b.key = key))
    (none : ∀ d ∈ ds, c.holds d.key = true → contribution d = []) :
    (pendingAfter c seen ds).flatMap contribution =
      (ds.mapIdx fun place d =>
        if (before ++ ds.take place).any (·.key = d.key) then [] else contribution d).flatten := by
  -- `before` are the places that have gone by; it agrees with `seen` on all keys that the cache
  -- does not hold, while held keys contribute nothing wherever they stand
  induction ds generalizing before seen with
  | nil => simp [pendingAfter]
  | cons d ds ih =>
    have shift : ∀ place, before ++ (d :: ds).take (place + 1) =
        (before ++ [d]) ++ ds.take place := by simp
    have later := fun e mem => none e (List.mem_cons_of_mem d mem)
    rw [pendingAfter, List.mapIdx_cons, List.flatten_cons]
    simp only [shift, List.take_zero, List.append_nil]
    by_cases held : c.holds d.key = true
    · have next := ih (before ++ [d]) seen (by
        intro key free
        have other : d.key ≠ key := fun same => by simp [← same, held] at free
        simp [agree key free, other]) later
      have gone : (seen.contains d.key || c.holds d.key) = true := by simp [held]
      rw [if_pos gone, next, none d List.mem_cons_self held]
      simp
    · have free : c.holds d.key = false := by simpa using held
      by_cases old : d.key ∈ seen
      · have next := ih (before ++ [d]) seen (by
          intro key free'
          rw [agree key free']
          simp only [List.mem_append, List.mem_singleton]
          constructor
          · intro h
            obtain ⟨b, mem, same⟩ := h
            exact ⟨b, .inl mem, same⟩
          · intro h
            rcases h with ⟨b, mem | rfl, same⟩
            · exact ⟨b, mem, same⟩
            · exact (agree key free').mp (same ▸ old)) later
        have gone : (seen.contains d.key || c.holds d.key) = true := by simp [old]
        have twice : before.any (·.key = d.key) = true := by
          simpa using (agree _ free).mp old
        rw [if_pos gone, next, if_pos twice, List.nil_append]
      · have next := ih (before ++ [d]) (d.key :: seen) (by
          intro key free'
          simp only [List.mem_cons, agree key free', List.mem_append]
          constructor
          · intro h
            rcases h with same | ⟨b, mem, same⟩
            · exact ⟨d, .inr (.inl rfl), same.symm⟩
            · exact ⟨b, .inl mem, same⟩
          · intro h
            rcases h with ⟨b, mem | rfl | impossible, same⟩
            · exact .inr ⟨b, mem, same⟩
            · exact .inl same.symm
            · exact absurd impossible (by simp)) later
        have new : (seen.contains d.key || c.holds d.key) = false := by simp [old, free]
        have once : before.any (·.key = d.key) = false := by
          rw [agree _ free] at old
          simpa using old
        rw [new, once, if_neg Bool.false_ne_true, if_neg Bool.false_ne_true, List.flatMap_cons,
          next]

/-- The pending dependencies contribute what the places do, where held keys contribute nothing. -/
theorem flatMap_pending {c : Cache} {contribution : Dependency → List Document}
    {ds : List Dependency} (none : ∀ d ∈ ds, c.holds d.key = true → contribution d = []) :
    (pending c ds).flatMap contribution = placed contribution ds := by
  have agree : ∀ key, c.holds key = false →
      (key ∈ ([] : List String) ↔ ∃ b ∈ ([] : List Dependency), b.key = key) := by simp
  rw [pending, flatMap_pendingAfter [] [] agree none]
  simp [placed]

end AmbientTypes.Resolution
