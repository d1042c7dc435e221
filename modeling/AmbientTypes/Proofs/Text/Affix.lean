import AmbientTypes.Text.Affix
import Mathlib.Data.List.Basic
import Mathlib.Data.List.TakeWhile

namespace AmbientTypes.Text

variable {mark : Char} {cs part rest : List Char} {s start ending : String}

theorem afterStart?_eq_some_iff {after : String} :
    afterStart? start s = some after ↔ s = start ++ after := by
  simp only [afterStart?, Option.map_eq_some_iff, List.isPrefixOf?_eq_some_iff_append_eq]
  constructor
  · intro h
    obtain ⟨tail, whole, rfl⟩ := h
    rw [← String.toList_inj, ← whole]
    simp
  · intro h
    subst h
    exact ⟨after.toList, by simp, by simp⟩

theorem beforeEnd?_eq_some_iff {before : String} :
    beforeEnd? ending s = some before ↔ s = before ++ ending := by
  simp only [beforeEnd?, Option.map_eq_some_iff, List.isSuffixOf?_eq_some_iff_append_eq]
  constructor
  · intro h
    obtain ⟨head, whole, rfl⟩ := h
    rw [← String.toList_inj, ← whole]
    simp
  · intro h
    subst h
    exact ⟨before.toList, by simp, by simp⟩

theorem startsWith_iff : startsWith start s = true ↔ ∃ after, s = start ++ after := by
  rw [startsWith, List.isPrefixOf_iff_prefix]
  constructor
  · intro h
    obtain ⟨after, whole⟩ := h
    refine ⟨String.ofList after, ?_⟩
    rw [← String.toList_inj, ← whole]
    simp
  · intro h
    obtain ⟨after, rfl⟩ := h
    exact ⟨after.toList, by simp⟩

theorem endsWith_iff : endsWith ending s = true ↔ ∃ before, s = before ++ ending := by
  rw [endsWith, List.isSuffixOf_iff_suffix]
  constructor
  · intro h
    obtain ⟨before, whole⟩ := h
    refine ⟨String.ofList before, ?_⟩
    rw [← String.toList_inj, ← whole]
    simp
  · intro h
    obtain ⟨before, rfl⟩ := h
    exact ⟨before.toList, by simp⟩

/-- An ending without the mark does not reach back over a mark. -/
theorem exists_append_of_append_mark {before end_ : List Char} (h : mark ∉ end_)
    (same : part ++ mark :: rest = before ++ end_) : ∃ before', rest = before' ++ end_ := by
  rcases List.append_eq_append_iff.mp same with ⟨more, -, tail⟩ | ⟨more, -, tail⟩
  · cases more with
    | nil =>
      have marked : mark ∈ [] ++ end_ := tail ▸ List.mem_cons_self
      exact absurd marked h
    | cons c more => exact ⟨more, (List.cons.inj tail).2⟩
  · have marked : mark ∈ end_ := tail ▸ List.mem_append_right more List.mem_cons_self
    exact absurd marked h

theorem takeWhile_append_cons {p : Char → Bool} (stops : p mark = false) (cs more : List Char) :
    (cs ++ mark :: more).takeWhile p = cs.takeWhile p ∧
      (cs ++ mark :: more).dropWhile p = cs.dropWhile p ++ mark :: more := by
  induction cs with
  | nil => simp [stops]
  | cons c cs ih =>
    rw [List.cons_append, List.takeWhile_cons, List.takeWhile_cons, List.dropWhile_cons,
      List.dropWhile_cons, ih.1, ih.2]
    split
    · exact ⟨rfl, rfl⟩
    · exact ⟨rfl, rfl⟩

/-- Two texts that go on to the same stop have the same parts. -/
theorem eq_of_append_stop (stop : Char → Bool) {part' rest' : List Char} {mark' : Char}
    (fresh : ∀ c ∈ part, stop c = false) (fresh' : ∀ c ∈ part', stop c = false)
    (stops : stop mark = true) (stops' : stop mark' = true)
    (same : part ++ mark :: rest = part' ++ mark' :: rest') :
    part = part' ∧ mark = mark' ∧ rest = rest' := by
  have cut : ∀ {part rest mark}, (∀ c ∈ part, stop c = false) → stop mark = true →
      (part ++ mark :: rest).takeWhile (!stop ·) = part := by
    intro part rest mark fresh stops
    rw [(takeWhile_append_cons (by simp [stops]) part rest).1, List.takeWhile_eq_self_iff]
    simpa using fresh
  have parts : (part ++ mark :: rest).takeWhile (!stop ·) = part := cut fresh stops
  rw [same, cut fresh' stops'] at parts
  subst parts
  simpa using same

/-- A character stands behind the only mark of a text where it is the first one of the rest. -/
theorem follows_mark_iff {c : Char} (fresh : mark ∉ part) (fresh' : mark ∉ rest) :
    [mark, c] <:+: part ++ mark :: rest ↔ rest.head? = some c := by
  constructor
  · rintro ⟨u, w, whole⟩
    rw [List.append_assoc, List.cons_append, List.singleton_append] at whole
    obtain ⟨-, -, rfl⟩ := (List.append_cons_inj_of_notMem fresh fresh').mp whole.symm
    rfl
  · intro head
    obtain ⟨rest, rfl⟩ := List.head?_eq_some_iff.mp head
    exact ⟨part, rest, by simp⟩

theorem cut_of_not_mem (h : mark ∉ cs) : cut mark cs = (cs, none) := by
  induction cs with
  | nil => rfl
  | cons c cs ih =>
    rw [List.mem_cons, not_or] at h
    rw [cut, if_neg (Ne.symm h.1), ih h.2]

theorem cut_append (h : mark ∉ part) (rest : List Char) :
    cut mark (part ++ mark :: rest) = (part, some rest) := by
  induction part with
  | nil => simp [cut]
  | cons c part ih =>
    rw [List.mem_cons, not_or] at h
    rw [List.cons_append, cut, if_neg (Ne.symm h.1), ih h.2]

/-- A text either has no mark, or is cut at the first one. -/
theorem cut_cases (mark : Char) (cs : List Char) :
    (mark ∉ cs ∧ cut mark cs = (cs, none)) ∨
      ∃ part rest, mark ∉ part ∧ cs = part ++ mark :: rest ∧ cut mark cs = (part, some rest) := by
  by_cases marked : mark ∈ cs
  · obtain ⟨part, rest, whole, fresh⟩ := List.eq_append_cons_of_mem marked
    exact .inr ⟨part, rest, fresh, whole, whole ▸ cut_append fresh rest⟩
  · exact .inl ⟨marked, cut_of_not_mem marked⟩

theorem not_mem_cut_fst (mark : Char) (cs : List Char) : mark ∉ (cut mark cs).1 := by
  rcases cut_cases mark cs with ⟨fresh, same⟩ | ⟨part, rest, fresh, -, same⟩
  · rwa [same]
  · rwa [same]

theorem mem_of_mem_cut_fst {c : Char} (h : c ∈ (cut mark cs).1) : c ∈ cs := by
  rcases cut_cases mark cs with ⟨-, same⟩ | ⟨part, rest, -, rfl, same⟩
  · rwa [same] at h
  · rw [same] at h
    exact List.mem_append_left _ h

theorem splitAt_of_not_mem (h : mark ∉ cs) : splitAt mark cs = [cs] := by
  induction cs with
  | nil => rfl
  | cons c cs ih =>
    rw [List.mem_cons, not_or] at h
    rw [splitAt, if_neg (Ne.symm h.1), ih h.2]

theorem splitAt_ne_nil (mark : Char) (cs : List Char) : splitAt mark cs ≠ [] := by
  cases cs with
  | nil => simp [splitAt]
  | cons c cs =>
    rw [splitAt]
    split
    · simp
    · split <;> simp

theorem not_mem_of_mem_splitAt (h : part ∈ splitAt mark cs) : mark ∉ part := by
  induction cs generalizing part with
  | nil =>
    obtain rfl := List.mem_singleton.mp h
    exact List.not_mem_nil
  | cons c cs ih =>
    rw [splitAt] at h
    split at h
    · rcases List.mem_cons.mp h with rfl | later
      · exact List.not_mem_nil
      · exact ih later
    · next fresh =>
      cases parts : splitAt mark cs with
      | nil => exact absurd parts (splitAt_ne_nil mark cs)
      | cons first later =>
        rw [parts] at h ih
        rcases List.mem_cons.mp h with rfl | inside
        · rw [List.mem_cons, not_or]
          exact ⟨Ne.symm fresh, ih List.mem_cons_self⟩
        · exact ih (List.mem_cons_of_mem first inside)

theorem splitAt_eq_splitOn (mark : Char) (cs : List Char) : splitAt mark cs = cs.splitOn mark := by
  induction cs with
  | nil => rfl
  | cons c cs ih =>
    rw [splitAt, List.splitOn, List.splitOnP_cons_eq_if_modifyHead, ← List.splitOn, ← ih]
    by_cases marked : c = mark
    · rw [if_pos marked, if_pos (beq_iff_eq.mpr marked)]
    · rw [if_neg marked, if_neg (by simpa using marked)]
      cases parts : splitAt mark cs with
      | nil => exact absurd parts (splitAt_ne_nil mark cs)
      | cons part parts => rfl

theorem splitAt_append (mark : Char) (cs rest : List Char) :
    splitAt mark (cs ++ mark :: rest) = splitAt mark cs ++ splitAt mark rest := by
  induction cs with
  | nil => simp [splitAt]
  | cons c cs ih =>
    rw [List.cons_append, splitAt, splitAt, ih]
    split
    · rfl
    · cases parts : splitAt mark cs with
      | nil => exact absurd parts (splitAt_ne_nil mark cs)
      | cons part parts => rfl

end AmbientTypes.Text
