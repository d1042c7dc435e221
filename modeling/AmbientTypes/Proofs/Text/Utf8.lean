import AmbientTypes.Text.Utf8

namespace AmbientTypes.Text.Utf8

/-- The bytes that spell characters. -/
def encode (cs : List Char) : List UInt8 := cs.flatMap String.utf8EncodeChar

/-- A byte behind the first one of a character. -/
def tailByte (n : Nat) : UInt8 := UInt8.ofNat (n % 64 + 128)

variable {lead a b c : UInt8} {rest : List UInt8} {n : Nat}

theorem toNat_ofNat_of_lt (small : n < 256) : (UInt8.ofNat n).toNat = n := by
  rw [UInt8.toNat_ofNat']
  exact Nat.mod_eq_of_lt small

theorem le_toNat_ofNat (low : 128 ≤ n) (small : n < 256) : 128 ≤ (UInt8.ofNat n).toNat := by
  rw [toNat_ofNat_of_lt small]
  exact low

/-- An ASCII character is its only byte; the bytes of other characters are no ASCII characters. -/
theorem utf8EncodeChar_cases (c : Char) :
    (c.toNat < 128 ∧ (String.utf8EncodeChar c).map UInt8.toNat = [c.toNat]) ∨
      (128 ≤ c.toNat ∧ ∀ b ∈ String.utf8EncodeChar c, 128 ≤ b.toNat) := by
  unfold String.utf8EncodeChar
  change (c.val.toNat < _ ∧ _) ∨ (_ ≤ c.val.toNat ∧ _)
  generalize same : c.val.toNat = v
  dsimp only
  split
  · refine .inl ⟨by omega, ?_⟩
    rw [List.map_singleton, toNat_ofNat_of_lt (by omega)]
    exact congrArg (fun n => [n]) same.symm
  all_goals refine .inr ⟨by omega, ?_⟩
  split
  · rintro b (_ | ⟨_, _ | ⟨_, ⟨⟩⟩⟩)
    all_goals exact le_toNat_ofNat (by omega) (by omega)
  split
  · rintro b (_ | ⟨_, _ | ⟨_, _ | ⟨_, ⟨⟩⟩⟩⟩)
    all_goals exact le_toNat_ofNat (by omega) (by omega)
  · rintro b (_ | ⟨_, _ | ⟨_, _ | ⟨_, _ | ⟨_, ⟨⟩⟩⟩⟩⟩)
    all_goals exact le_toNat_ofNat (by omega) (by omega)

theorem toNat_tailByte (n : Nat) : (tailByte n).toNat = n % 64 + 128 :=
  @toNat_ofNat_of_lt (n % 64 + 128) (by omega)

theorem payload_tailByte (n : Nat) : payload (tailByte n) = n % 64 := by
  unfold payload
  rw [toNat_tailByte]
  exact Nat.add_sub_cancel ..

theorem isContinuation_tailByte (n : Nat) : isContinuation (tailByte n) = true := by
  have low : 0x80 ≤ tailByte n := by
    rw [UInt8.le_iff_toNat_le, toNat_tailByte]
    exact Nat.le_add_left ..
  have high : tailByte n < 0xC0 := by
    rw [UInt8.lt_iff_toNat_lt, toNat_tailByte]
    exact Nat.add_lt_add_right (Nat.mod_lt n (by decide)) 128
  rw [isContinuation, decide_eq_true low, decide_eq_true high]
  rfl

theorem admitsSecond_tailByte (e0 : lead.toNat = 224 → 32 ≤ n % 64)
    (ed : lead.toNat = 237 → n % 64 < 32) (f0 : lead.toNat = 240 → 16 ≤ n % 64)
    (f4 : lead.toNat = 244 → n % 64 < 16) : admitsSecond lead (tailByte n) = true := by
  simp [admitsSecond, isContinuation_tailByte, ← UInt8.toNat_inj, UInt8.lt_iff_toNat_lt,
    UInt8.le_iff_toNat_le, toNat_tailByte]
  omega

theorem step_one (small : lead.toNat < 128) :
    step lead rest = .char (Char.ofNat lead.toNat) rest := by
  have first : lead < 0x80 := small
  rw [step.eq_def, if_pos first]

theorem step_two (low : 194 ≤ lead.toNat) (high : lead.toNat < 224)
    (tail : isContinuation a = true) :
    step lead (a :: rest) = .char (Char.ofNat ((lead.toNat - 192) * 64 + payload a)) rest := by
  have two : ¬ lead < 0xC2 := Nat.not_lt.mpr low
  have one : ¬ lead < 0x80 := Nat.not_lt.mpr (Nat.le_trans (by decide) low)
  have three : lead < 0xE0 := high
  rw [step.eq_def, if_neg one, if_neg two, if_pos three]
  exact if_pos tail

theorem step_three (low : 224 ≤ lead.toNat) (high : lead.toNat < 240)
    (second : admitsSecond lead a = true) (tail : isContinuation b = true) :
    step lead (a :: b :: rest) =
      .char (Char.ofNat (((lead.toNat - 224) * 64 + payload a) * 64 + payload b)) rest := by
  have three : ¬ lead < 0xE0 := Nat.not_lt.mpr low
  have two : ¬ lead < 0xC2 := Nat.not_lt.mpr (Nat.le_trans (by decide) low)
  have one : ¬ lead < 0x80 := Nat.not_lt.mpr (Nat.le_trans (by decide) low)
  have four : lead < 0xF0 := high
  rw [step.eq_def, if_neg one, if_neg two, if_neg three, if_pos four]
  simp only [second, tail, Bool.not_true, if_true, if_neg Bool.false_ne_true]

theorem step_four (low : 240 ≤ lead.toNat) (high : lead.toNat < 245)
    (second : admitsSecond lead a = true) (tail : isContinuation b = true)
    (tail' : isContinuation c = true) :
    step lead (a :: b :: c :: rest) = .char (Char.ofNat
      ((((lead.toNat - 240) * 64 + payload a) * 64 + payload b) * 64 + payload c)) rest := by
  have four : ¬ lead < 0xF0 := Nat.not_lt.mpr low
  have three : ¬ lead < 0xE0 := Nat.not_lt.mpr (Nat.le_trans (by decide) low)
  have two : ¬ lead < 0xC2 := Nat.not_lt.mpr (Nat.le_trans (by decide) low)
  have one : ¬ lead < 0x80 := Nat.not_lt.mpr (Nat.le_trans (by decide) low)
  have five : lead < 0xF5 := high
  rw [step.eq_def, if_neg one, if_neg two, if_neg three, if_neg four, if_pos five]
  simp only [second, tail, tail', Bool.not_true, if_true, if_neg Bool.false_ne_true]

/-- A character is read off the bytes that spell it. -/
theorem exists_step (c : Char) (rest : List UInt8) :
    ∃ lead more, String.utf8EncodeChar c ++ rest = lead :: more ∧
      step lead more = .char c rest := by
  have scalar : c.val.toNat < 0xD800 ∨ (0xDFFF < c.val.toNat ∧ c.val.toNat < 0x110000) := c.valid
  have whole : ∀ {n}, n = c.val.toNat → Char.ofNat n = c := by
    rintro _ rfl
    exact Char.ofNat_toNat c
  unfold String.utf8EncodeChar
  generalize c.val.toNat = v at scalar whole
  dsimp only
  -- By the count of bytes. The second byte is admitted since the first one was chosen by the
  -- smallest count that fits, and since the character is no surrogate.
  split
  · refine ⟨_, _, rfl, ?_⟩
    have lead := @toNat_ofNat_of_lt v (by omega)
    rw [step_one (by omega), lead, whole rfl]
    rfl
  split
  · have lead := @toNat_ofNat_of_lt (v / 64 % 32 + 192) (by omega)
    refine ⟨_, tailByte v :: rest, rfl, ?_⟩
    rw [step_two (by omega) (by omega) (isContinuation_tailByte v), lead, payload_tailByte]
    rw [whole (by omega)]
  split
  · have lead := @toNat_ofNat_of_lt (v / 4096 % 16 + 224) (by omega)
    refine ⟨_, tailByte (v / 64) :: tailByte v :: rest, rfl, ?_⟩
    rw [step_three (by omega) (by omega) (admitsSecond_tailByte ?_ ?_ ?_ ?_)
      (isContinuation_tailByte v), lead, payload_tailByte, payload_tailByte]
    · rw [whole (by omega)]
    all_goals omega
  · have lead := @toNat_ofNat_of_lt (v / 262144 % 8 + 240) (by omega)
    refine ⟨_, tailByte (v / 4096) :: tailByte (v / 64) :: tailByte v :: rest, rfl, ?_⟩
    rw [step_four (by omega) (by omega) (admitsSecond_tailByte ?_ ?_ ?_ ?_)
      (isContinuation_tailByte _) (isContinuation_tailByte v), lead, payload_tailByte,
      payload_tailByte, payload_tailByte]
    · rw [whole (by omega)]
    all_goals omega

theorem decodeLossy_encode (cs : List Char) : decodeLossy (encode cs) = cs := by
  induction cs with
  | nil => rw [encode, List.flatMap_nil, decodeLossy]
  | cons c cs ih =>
    obtain ⟨lead, more, bytes, read⟩ := exists_step c (encode cs)
    have whole : encode (c :: cs) = lead :: more := bytes
    rw [whole, decodeLossy.eq_def]
    dsimp only
    split
    · next c' rest read' =>
      rw [read, Step.char.injEq] at read'
      rw [← read'.1, ← read'.2, ih]
    · next read' =>
      rw [read] at read'
      cases read'

end AmbientTypes.Text.Utf8
