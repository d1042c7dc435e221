import AmbientTypes.Proofs.Syntax.Literal

namespace AmbientTypes.Syntax

/-- An escape in braces whose digits write a number above the largest that is read. -/
def Part.IsOversized (p : Part) : Prop :=
  ∃ (digits : List HexDigit) (rest : List Char),
    p = .escape ('u' :: '\x7b' :: (digits.map HexDigit.char ++ rest)) ∧
      maxBraced < HexDigit.number digits

variable {c : Char} {cs sequence : List Char} {p : Part} {parts : List Part}

namespace HexDigit

theorem toNat_lt_of_isHex (hex : isHex c = true) : c.toNat < 128 := by
  have ascii : ∀ n, n < 128 → c.val ≤ n → c.toNat < 128 := by
    intro n small le
    have le' := UInt32.le_iff_toNat_le.mp le
    have small' := UInt32.lt_iff_toNat_lt.mp small
    exact Nat.lt_of_le_of_lt le' small'
  simp only [isHex, Char.isDigit, Bool.or_eq_true, Bool.and_eq_true, decide_eq_true_eq] at hex
  rcases hex with (⟨-, le⟩ | ⟨-, le⟩) | ⟨-, le⟩
  · exact ascii 57 (by decide) le
  · exact ascii 102 (by decide) le
  · exact ascii 70 (by decide) le

theorem exists_char_eq (hex : isHex c = true) : ∃ d : HexDigit, d.char = c := by
  have each : ∀ n < 128, isHex (Char.ofNat n) = true → ∃ (value : Fin 16) (capital : Bool),
      char ⟨value, capital⟩ = Char.ofNat n := by
    decide
  have found := each c.toNat (toNat_lt_of_isHex hex)
  rw [Char.ofNat_toNat] at found
  obtain ⟨value, capital, same⟩ := found hex
  exact ⟨⟨value, capital⟩, same⟩

theorem exists_map_char_eq (hex : ∀ c ∈ cs, isHex c = true) :
    ∃ ds : List HexDigit, ds.map char = cs := by
  induction cs with
  | nil => exact ⟨[], rfl⟩
  | cons c cs ih =>
    obtain ⟨d, rfl⟩ := exists_char_eq (hex c List.mem_cons_self)
    obtain ⟨ds, rfl⟩ := ih fun c mem => hex c (List.mem_cons_of_mem _ mem)
    exact ⟨d :: ds, rfl⟩

end HexDigit

open HexDigit

/-- More digits write no smaller number. -/
theorem digitsValue_le_append (cs more : List Char) :
    digitsValue 16 cs ≤ digitsValue 16 (cs ++ more) := by
  have step : ∀ n, n ≤ more.foldl (fun n c => n * 16 + (Text.hexValue? c).getD 0) n := by
    induction more with
    | nil => exact Nat.le_refl
    | cons c more ih =>
      intro n
      have longer : n ≤ n * 16 + (Text.hexValue? c).getD 0 := by omega
      exact Nat.le_trans longer (ih _)
  rw [digitsValue, digitsValue, List.foldl_append]
  exact step _

theorem escapePoints?_braced (cs : List Char) :
    escapePoints? ('u' :: '\x7b' :: cs) = none ↔
      maxBraced < digitsValue 16 (cs.takeWhile isHex) := by
  have order : 0x10FFFF < maxBraced := by decide
  rw [escapePoints?]
  generalize digitsValue 16 (cs.takeWhile isHex) = n
  split
  · simp only [reduceCtorEq, false_iff]
    omega
  split
  · simp only [reduceCtorEq, false_iff]
    omega
  · simp only [true_iff]
    omega

/-- Only escapes in braces may be without a value. -/
theorem exists_braced_of_escapePoints? (valueless : escapePoints? sequence = none) :
    ∃ cs, sequence = 'u' :: '\x7b' :: cs := by
  unfold escapePoints? at valueless
  split at valueless
  · exact ⟨_, rfl⟩
  · cases valueless
  · cases valueless
  · split at valueless
    · cases valueless
    · split at valueless <;> cases valueless
  · cases valueless

theorem Part.points?_eq_none_iff : p.points? = none ↔ p.IsOversized := by
  constructor
  · intro valueless
    cases p with
    | fragment => cases valueless
    | escape sequence =>
      obtain ⟨cs, rfl⟩ := exists_braced_of_escapePoints? valueless
      have hex : ∀ c ∈ cs.takeWhile isHex, isHex c = true := fun c => List.mem_takeWhile_imp
      obtain ⟨digits, same⟩ := exists_map_char_eq hex
      refine ⟨digits, cs.dropWhile isHex, ?_, ?_⟩
      · rw [same, List.takeWhile_append_dropWhile]
      · rw [← digitsValue_map_char, same]
        exact (escapePoints?_braced cs).mp valueless
  · intro h
    obtain ⟨digits, rest, rfl, large⟩ := h
    rw [points?, escapePoints?_braced, List.takeWhile_append_of_pos fun _ => isHex_of_mem_map_char]
    rw [← digitsValue_map_char] at large
    exact Nat.lt_of_lt_of_le large (digitsValue_le_append _ _)

/-- A step that fails for some element fails for the list. -/
theorem mapM_eq_none_iff {α β : Type} {f : α → Option β} {l : List α} :
    l.mapM f = none ↔ ∃ a ∈ l, f a = none := by
  induction l with
  | nil => simp
  | cons a l ih =>
    simp only [List.mapM_cons, List.mem_cons, exists_eq_or_imp, ← ih]
    cases first : f a with
    | none => simp
    | some b => cases later : l.mapM f <;> simp

theorem mapM_eq_some_filterMap {α β : Type} {f : α → Option β} {l : List α}
    (all : ∀ a ∈ l, f a ≠ none) : l.mapM f = some (l.filterMap f) := by
  induction l with
  | nil => rfl
  | cons a l ih =>
    obtain ⟨b, here⟩ := Option.ne_none_iff_exists'.mp (all a List.mem_cons_self)
    rw [List.mapM_cons, here, ih fun a mem => all a (List.mem_cons_of_mem _ mem),
      List.filterMap_cons_some here]
    rfl

theorem literalValue?_eq_none_iff :
    literalValue? parts = none ↔ ∃ p ∈ parts, p.IsOversized := by
  simp only [← Part.points?_eq_none_iff, ← mapM_eq_none_iff]
  rw [literalValue?, Option.map_eq_none_iff]

end AmbientTypes.Syntax
