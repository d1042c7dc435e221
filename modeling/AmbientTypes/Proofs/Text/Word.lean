import AmbientTypes.Text.Blank
import AmbientTypes.Text.Lowercase
import AmbientTypes.Text.Word
import Mathlib.Data.List.Basic

namespace AmbientTypes.Text

/-- What the lower case of a word is made of. -/
def IsLetterlike (c : Char) : Prop := isWord c = true ∨ (97 ≤ c.toNat ∧ isBlank c = false)

variable {c : Char} {cs : List Char}

/-- A property of word characters within ASCII. -/
theorem of_isWord_of_low {P : Char → Prop}
    (ascii : ∀ n < 128, isWord (Char.ofNat n) = true → P (Char.ofNat n)) (low : c.val < 128)
    (word : isWord c = true) : P c := by
  have own := ascii c.toNat (by simpa [UInt32.lt_iff_toNat_lt] using low)
  rw [Char.ofNat_toNat] at own
  exact own word

theorem not_isBlank_of_isWord (word : isWord c = true) : isBlank c = false := by
  by_cases low : c.val < 128
  · exact of_isWord_of_low (P := (isBlank · = false)) (by decide) low word
  · have other : c ≠ '_' := by
      rintro rfl
      exact low (by decide)
    have apart : ∀ b ∈ blankRanges, ∀ r ∈ letterOrNumberRanges, b.2 < r.1 ∨ r.2 < b.1 := by
      decide +kernel
    rw [isWord, isLetterOrNumber, if_neg low, decide_eq_false other, Bool.false_or] at word
    obtain ⟨r, mem, below, above⟩ := (inRanges_iff _ _).mp word
    rw [isBlank, if_neg low, Bool.eq_false_iff]
    intro blank
    obtain ⟨b, mem', below', above'⟩ := (inRanges_iff _ _).mp blank
    have := apart b mem' r mem
    omega

theorem IsLetterlike.not_isBlank (h : IsLetterlike c) : isBlank c = false := by
  rcases h with word | ⟨-, solid⟩
  · exact not_isBlank_of_isWord word
  · exact solid

theorem isLetterlike_ofNat {n : Nat} (least : 97 ≤ n) (valid : n.isValidChar)
    (apart : ∀ b ∈ blankRanges, n < b.1 ∨ b.2 < n) : IsLetterlike (Char.ofNat n) := by
  have same : (Char.ofNat n).toNat = n := congrArg Char.toNat (dif_pos valid)
  refine .inr ⟨by omega, ?_⟩
  rw [Bool.eq_false_iff]
  intro blank
  unfold isBlank at blank
  split at blank
  · have low : (Char.ofNat n).toNat ≤ 32 := by
      simp only [Bool.or_eq_true, Bool.and_eq_true, decide_eq_true_eq, UInt32.le_iff_toNat_le] at blank
      simp at blank
      omega
    omega
  · obtain ⟨b, mem, below, above⟩ := (inRanges_iff _ _).mp blank
    have := apart b mem
    omega

theorem isLetterlike_lowerChar (word : isWord c = true) : IsLetterlike (lowerChar c) := by
  -- Outside ASCII, letters move by runs of the table, and none of these ends at a blank.
  have shifted : ∀ r ∈ caseRuns, (97 ≤ r.first + r.shift ∧ r.last + r.shift < 0xd800 ∨
      0xe000 ≤ r.first + r.shift ∧ r.last + r.shift < 0x110000) ∧
      ∀ b ∈ blankRanges, r.last + r.shift < b.1 ∨ b.2 < r.first + r.shift := by decide +kernel
  unfold lowerChar
  split
  · next low =>
    exact of_isWord_of_low (P := fun c => IsLetterlike c.toLower)
      (fun n small word => .inl ((by decide : ∀ n < 128, isWord (Char.ofNat n) = true →
        isWord (Char.ofNat n).toLower = true) n small word)) low word
  split
  · next r found =>
    have fits := List.find?_some found
    obtain ⟨inside, apart⟩ := shifted r (List.mem_of_find?_eq_some found)
    simp only [Bool.and_eq_true, decide_eq_true_eq] at fits
    apply isLetterlike_ofNat
    · omega
    · unfold Nat.isValidChar
      omega
    · intro b mem
      have := apart b mem
      omega
  · exact .inl word

theorem lowerFrom_eq_nil_iff {before : List Char} : lowerFrom before cs = [] ↔ cs = [] := by
  cases cs with
  | nil => simp [lowerFrom]
  | cons c cs =>
    simp only [lowerFrom, List.append_eq_nil_iff, reduceCtorEq, iff_false, not_and]
    intro none
    grind

/-- The lower case of a word. -/
theorem isLetterlike_of_mem_lowerFrom {before : List Char} (word : ∀ c ∈ cs, isWord c = true)
    (mem : c ∈ lowerFrom before cs) : IsLetterlike c := by
  induction cs generalizing before with
  | nil => cases mem
  | cons d cs ih =>
    rw [lowerFrom, List.mem_append] at mem
    rcases mem with here | there
    · split at here
      · rcases List.mem_pair.mp here with rfl | rfl
        · exact .inl (by decide)
        · exact .inr (by decide)
      split at here
      · split at here <;> (rw [List.mem_singleton.mp here]; exact .inr (by decide))
      · rw [List.mem_singleton.mp here]
        exact isLetterlike_lowerChar (word d List.mem_cons_self)
    · exact ih (fun e later => word e (List.mem_cons_of_mem d later)) there

end AmbientTypes.Text
