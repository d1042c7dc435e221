import AmbientTypes.Proofs.Text.Utf8
import AmbientTypes.Url.Percent

namespace AmbientTypes.Url.Percent

def capitalDigits : List Char := "0123456789ABCDEF".toList

/-- A text of unreserved characters, and of percent signs with two capital digits behind each. -/
inductive IsEncoded : List Char → Prop where
  | nil : IsEncoded []
  | plain {c : Char} {rest : List Char}
      (unreserved : c.isAlphanum = true ∨ c ∈ ['-', '.', '_', '~']) (encoded : IsEncoded rest) :
      IsEncoded (c :: rest)
  | byte {high low : Char} {rest : List Char} (first : high ∈ capitalDigits)
      (second : low ∈ capitalDigits) (encoded : IsEncoded rest) :
      IsEncoded ('%' :: high :: low :: rest)

/-- A segment that stands for a text: it is encoded, and its bytes are the UTF-8 form of the
text. -/
structure StandsFor (segment text : String) : Prop where
  encoded : IsEncoded segment.toList
  spells : bytes segment.toList = Text.Utf8.encode text.toList
  decoded : decode segment.toList = text.toList

variable {keep : Char → Bool} {cs ds : List Char} {c : Char} {n : Nat}

theorem hexValue?_digit (small : n < 16) : Text.hexValue? (digit n) = some n := by
  have all : ∀ n : Fin 16, Text.hexValue? (digit n) = some n.val := by decide
  exact all ⟨n, small⟩

theorem isAlphanum_digit (small : n < 16) : (digit n).isAlphanum = true := by
  have all : ∀ n : Fin 16, (digit n).isAlphanum = true := by decide
  exact all ⟨n, small⟩

theorem high_lt (b : UInt8) : b.toNat / 16 < 16 := Nat.div_lt_of_lt_mul b.toNat_lt

theorem low_lt (b : UInt8) : b.toNat % 16 < 16 := Nat.mod_lt _ (by decide)

theorem byte?_digits (b : UInt8) :
    byte? (digit (b.toNat / 16)) (digit (b.toNat % 16)) = some b := by
  have whole : b.toNat / 16 * 16 + b.toNat % 16 = b.toNat := Nat.div_add_mod' b.toNat 16
  have read : byte? (digit (b.toNat / 16)) (digit (b.toNat % 16)) =
      some (b.toNat / 16 * 16 + b.toNat % 16).toUInt8 := by
    rw [byte?, hexValue?_digit (high_lt b), hexValue?_digit (low_lt b)]
    rfl
  rw [read, whole, Nat.toUInt8_eq, UInt8.ofNat_toNat]

theorem bytes_escapeByte (b : UInt8) (rest : List Char) :
    bytes (escapeByte b ++ rest) = b :: bytes rest := by
  have written : escapeByte b ++ rest =
      '%' :: digit (b.toNat / 16) :: digit (b.toNat % 16) :: rest := rfl
  rw [written, bytes, byte?_digits]

theorem bytes_escapeBytes (bs : List UInt8) (rest : List Char) :
    bytes (bs.flatMap escapeByte ++ rest) = bs ++ bytes rest := by
  induction bs with
  | nil => rfl
  | cons b bs ih =>
    rw [List.flatMap_cons, List.append_assoc, bytes_escapeByte, ih]
    rfl

theorem bytes_cons (plain : c ≠ '%') (rest : List Char) :
    bytes (c :: rest) = String.utf8EncodeChar c ++ bytes rest := by
  rw [bytes]
  intro high low more same
  exact absurd same plain

theorem encode_cons (keep : Char → Bool) (c : Char) (cs : List Char) :
    encode keep (c :: cs) = (if keep c then [c] else escape c) ++ encode keep cs := rfl

theorem encode_append (keep : Char → Bool) (cs ds : List Char) :
    encode keep (cs ++ ds) = encode keep cs ++ encode keep ds := List.flatMap_append

theorem encode_of_forall (kept : ∀ c ∈ cs, keep c = true) : encode keep cs = cs := by
  induction cs with
  | nil => rfl
  | cons c cs ih =>
    rw [encode_cons, if_pos (kept c List.mem_cons_self),
      ih fun d mem => kept d (List.mem_cons_of_mem c mem)]
    rfl

theorem bytes_encode (escaped : keep '%' = false) (cs : List Char) :
    bytes (encode keep cs) = Text.Utf8.encode cs := by
  induction cs with
  | nil => rfl
  | cons c cs ih =>
    have spelled : Text.Utf8.encode (c :: cs) =
        String.utf8EncodeChar c ++ Text.Utf8.encode cs := rfl
    rw [encode_cons, spelled]
    by_cases kept : keep c = true
    · have plain : c ≠ '%' := by
        intro same
        rw [same, escaped] at kept
        cases kept
      rw [if_pos kept, List.singleton_append, bytes_cons plain, ih]
    · rw [if_neg kept, escape, bytes_escapeBytes, ih]

theorem decode_encode (escaped : keep '%' = false) (cs : List Char) :
    decode (encode keep cs) = cs := by
  rw [decode, bytes_encode escaped, Text.Utf8.decodeLossy_encode]

theorem encode_inj (escaped : keep '%' = false) (same : encode keep cs = encode keep ds) :
    cs = ds := by
  rw [← decode_encode escaped cs, same, decode_encode escaped]

theorem mem_escape {d : Char} (h : c ∈ escape d) : c = '%' ∨ c.isAlphanum = true := by
  obtain ⟨b, -, mem⟩ := List.mem_flatMap.mp h
  have written : c ∈ ['%', digit (b.toNat / 16), digit (b.toNat % 16)] := mem
  simp only [List.mem_cons, List.not_mem_nil, or_false] at written
  rcases written with sign | high | low
  · exact .inl sign
  · exact .inr (high ▸ isAlphanum_digit (high_lt b))
  · exact .inr (low ▸ isAlphanum_digit (low_lt b))

/-- Nothing but unreserved characters and percent signs stands in an encoded segment. -/
theorem mem_encode_isUnreserved (h : c ∈ encode isUnreserved cs) :
    c = '%' ∨ isUnreserved c = true := by
  obtain ⟨d, -, mem⟩ := List.mem_flatMap.mp h
  split at mem
  · next kept =>
    rw [List.mem_singleton] at mem
    exact .inr (mem ▸ kept)
  · rcases mem_escape mem with sign | digit
    · exact .inl sign
    · exact .inr (by rw [isUnreserved, digit, Bool.true_or])

theorem digit_mem_capitalDigits (small : n < 16) : digit n ∈ capitalDigits := by
  have all : ∀ n : Fin 16, digit n ∈ capitalDigits := by decide
  exact all ⟨n, small⟩

theorem IsEncoded.escapeBytes_append (encoded : IsEncoded cs) (bs : List UInt8) :
    IsEncoded (bs.flatMap escapeByte ++ cs) := by
  induction bs with
  | nil => exact encoded
  | cons b bs ih =>
    rw [List.flatMap_cons, List.append_assoc]
    exact .byte (digit_mem_capitalDigits (high_lt b)) (digit_mem_capitalDigits (low_lt b)) ih

theorem isEncoded_encode (cs : List Char) : IsEncoded (encode isUnreserved cs) := by
  induction cs with
  | nil => exact .nil
  | cons c cs ih =>
    rw [encode_cons]
    by_cases kept : isUnreserved c = true
    · rw [if_pos kept]
      rw [isUnreserved, Bool.or_eq_true, List.contains_eq_mem, decide_eq_true_eq] at kept
      exact .plain (kept.imp_right (by simp +contextual [or_comm, or_left_comm])) ih
    · rw [if_neg kept]
      exact ih.escapeBytes_append _

theorem standsFor_segment (text : String) : StandsFor (segment text) text := by
  rw [segment]
  refine ⟨?_, ?_, ?_⟩
  all_goals rw [String.toList_ofList]
  · exact isEncoded_encode text.toList
  · exact bytes_encode (by decide) text.toList
  · exact decode_encode (by decide) text.toList

theorem segment_inj {s t : String} : segment s = segment t ↔ s = t := by
  refine ⟨fun same => ?_, congrArg segment⟩
  rw [← String.toList_inj, ← (standsFor_segment s).decoded, same, (standsFor_segment t).decoded]

theorem IsEncoded.slash_not_mem (encoded : IsEncoded cs) : '/' ∉ cs := by
  induction encoded with
  | nil => exact List.not_mem_nil
  | plain unreserved _ ih =>
    rw [List.mem_cons, not_or]
    refine ⟨?_, ih⟩
    rintro rfl
    exact absurd unreserved (by decide)
  | byte first second _ ih =>
    have digits : '/' ∉ capitalDigits := by decide
    simp only [List.mem_cons, not_or]
    exact ⟨by decide, fun same => digits (same ▸ first), fun same => digits (same ▸ second), ih⟩

end AmbientTypes.Url.Percent
