import AmbientTypes.Declaration.Template
import AmbientTypes.Proofs.Except
import Mathlib.Data.List.Infix

namespace AmbientTypes.Declaration

/-- The characters that a backslash in front of them makes an escape of. -/
def IsEscapable (c : Char) : Prop := c.isAlphanum = true ∨ c = '\\'

/-- A text with a backslash in front of a letter, a digit or another backslash. -/
def HasEscape (cs : List Char) : Prop := ∃ c, IsEscapable c ∧ ['\\', c] <:+: cs

instance (c : Char) : Decidable (IsEscapable c) := inferInstanceAs (Decidable (_ ∨ _))

theorem hasEscape_iff_any {cs : List Char} :
    HasEscape cs ↔ cs.any (fun c => IsEscapable c ∧ ['\\', c] <:+: cs) = true := by
  simp only [HasEscape, List.any_eq_true, decide_eq_true_eq]
  constructor
  · rintro ⟨c, escapable, inside⟩
    exact ⟨c, inside.subset (by simp), escapable, inside⟩
  · rintro ⟨c, -, found⟩
    exact ⟨c, found⟩

instance (cs : List Char) : Decidable (HasEscape cs) :=
  decidable_of_iff (cs.any (fun c => IsEscapable c ∧ ['\\', c] <:+: cs) = true) hasEscape_iff_any.symm

variable {c : Char} {cs key : List Char} {tokens rest : List Token} {inserts : List Insert}
  {fuel position next : Nat}

theorem flatMap_text_ofChars (cs : List Char) : (Token.ofChars cs).flatMap Token.text = cs := by
  fun_induction Token.ofChars cs with
  | case1 => rfl
  | case2 c cs ih => rw [List.flatMap_cons, ih]; rfl
  | case3 c cs _ ih => rw [List.flatMap_cons, ih]; rfl

theorem infix_of_escaped_mem (mem : .escaped c ∈ Token.ofChars cs) : ['\\', c] <:+: cs := by
  fun_induction Token.ofChars cs with
  | case1 => cases mem
  | case2 d cs ih =>
    rcases List.mem_cons.mp mem with same | later
    · obtain rfl := Token.escaped.inj same
      exact ⟨[], cs, rfl⟩
    · exact (ih later).trans ⟨['\\', d], [], by simp⟩
  | case3 d cs _ ih =>
    rcases List.mem_cons.mp mem with same | later
    · cases same
    · exact (ih later).trans ⟨[d], [], by simp⟩

theorem hasEscape_iff : HasEscape cs ↔ ∃ c, IsEscapable c ∧ .escaped c ∈ Token.ofChars cs := by
  constructor
  · rintro ⟨c, escapable, inside⟩
    fun_induction Token.ofChars cs with
    | case1 => cases List.infix_nil.mp inside
    | case2 d cs ih =>
      by_cases first : IsEscapable d
      · exact ⟨d, first, List.mem_cons_self⟩
      rcases List.infix_cons_iff.mp inside with here | inside
      · obtain rfl := (List.cons_prefix_cons.mp (List.cons_prefix_cons.mp here).2).1
        exact absurd escapable first
      rcases List.infix_cons_iff.mp inside with here | later
      · exact absurd (.inr (List.cons_prefix_cons.mp here).1.symm) first
      · obtain ⟨e, escapable, mem⟩ := ih later
        exact ⟨e, escapable, List.mem_cons_of_mem _ mem⟩
    | case3 d cs other ih =>
      rcases List.infix_cons_iff.mp inside with here | later
      · obtain ⟨rfl, next⟩ := List.cons_prefix_cons.mp here
        obtain ⟨more, whole⟩ := next
        exact absurd whole.symm (other c more rfl)
      · obtain ⟨e, escapable, mem⟩ := ih later
        exact ⟨e, escapable, List.mem_cons_of_mem _ mem⟩
  · rintro ⟨c, escapable, mem⟩
    exact ⟨c, escapable, infix_of_escaped_mem mem⟩

theorem hasEscape_append_iff {before cs : List Char} (plain : '\\' ∉ before) :
    HasEscape (before ++ cs) ↔ HasEscape cs := by
  constructor
  · rintro ⟨c, escapable, inside⟩
    refine ⟨c, escapable, ?_⟩
    induction before with
    | nil => exact inside
    | cons e before ih =>
      rw [List.mem_cons, not_or] at plain
      rcases List.infix_cons_iff.mp inside with here | later
      · exact absurd (List.cons_prefix_cons.mp here).1 plain.1
      · exact ih plain.2 later
  · rintro ⟨c, escapable, inside⟩
    exact ⟨c, escapable, inside.trans (List.suffix_append before cs).isInfix⟩

theorem hasEscape_concat_iff {cs : List Char} {e : Char} (plain : ¬ IsEscapable e) :
    HasEscape (cs ++ [e]) ↔ HasEscape cs := by
  constructor
  · rintro ⟨c, escapable, inside⟩
    rcases List.infix_concat_iff.mp inside with ⟨before, last⟩ | inside
    · have ends : (before ++ ['\\']) ++ [c] = cs ++ [e] := by simpa using last
      obtain rfl := List.singleton_inj.mp (List.append_inj' ends rfl).2
      exact absurd escapable plain
    · exact ⟨c, escapable, inside⟩
  · rintro ⟨c, escapable, inside⟩
    exact ⟨c, escapable, inside.trans (List.prefix_append cs [e]).isInfix⟩

theorem isEscapable_of_controlEscape? {d : Char} (read : controlEscape? c = some d) :
    IsEscapable c := by
  unfold controlEscape? at read
  split at read
  case h_9 => cases read
  all_goals decide

theorem readEscape_of_not_isEscapable (plain : ¬ IsEscapable c) (position : Nat)
    (tokens : List Token) :
    readEscape position c tokens = .ok ([.char '\\', .char c], position + 2, tokens) := by
  have named : c ≠ 'g' := by
    rintro rfl
    exact plain (by decide)
  have control : controlEscape? c = none := by
    cases read : controlEscape? c with
    | none => rfl
    | some d => exact absurd (isEscapable_of_controlEscape? read) plain
  rw [IsEscapable, not_or, Char.isAlphanum, Bool.or_eq_true, not_or] at plain
  rw [readEscape, if_neg named, if_neg plain.1.2, control]
  exact if_neg plain.1.1

theorem readTokens_of_not_isEscapable
    (plain : ∀ c, .escaped c ∈ tokens → ¬ IsEscapable c) (enough : tokens.length ≤ fuel)
    (position : Nat) :
    readTokens fuel position tokens = .ok ((tokens.flatMap Token.text).map .char) := by
  induction tokens generalizing fuel position with
  | nil => cases fuel <;> rfl
  | cons token tokens ih =>
    obtain ⟨fuel, rfl⟩ := Nat.exists_eq_add_of_le' (Nat.le_trans (Nat.le_add_left 1 _) enough)
    have later : ∀ c, .escaped c ∈ tokens → ¬ IsEscapable c :=
      fun c mem => plain c (List.mem_cons_of_mem token mem)
    have enough' : tokens.length ≤ fuel := Nat.le_of_succ_le_succ enough
    cases token with
    | plain c =>
      rw [readTokens, ih later enough']
      rfl
    | escaped c =>
      rw [readTokens, readEscape_of_not_isEscapable (plain c List.mem_cons_self)]
      change (readTokens fuel (position + 2) tokens >>= fun more =>
        .ok ([Insert.char '\\', .char c] ++ more)) = _
      rw [ih later enough']
      rfl

/-- What is read of a template without escapes is the template. -/
theorem readTemplate_of_not_hasEscape (plain : ¬ HasEscape cs) :
    readTemplate cs = .ok (cs.map .char) := by
  rw [readTemplate, readTokens_of_not_isEscapable _ (Nat.le_refl _), flatMap_text_ofChars]
  exact fun c mem escapable => plain (hasEscape_iff.mpr ⟨c, escapable, mem⟩)

theorem expand_map_char (template : List Char) (c : Clause) :
    expand (template.map .char) c = template := by
  induction template with
  | nil => rfl
  | cons d template ih =>
    rw [expand] at ih
    rw [List.map_cons, expand, List.flatMap_cons, ih]
    rfl

theorem suffix_of_namedReference {insert : Insert}
    (read : namedReference position tokens = .ok (insert, next, rest)) : rest <:+ tokens := by
  unfold namedReference at read
  split at read
  · next tokens =>
    dsimp only at read
    split at read
    · cases read
    · next close more found =>
      have behind : close :: more <:+ tokens := found ▸ List.dropWhile_suffix _
      have rest_eq : rest = more := by
        split at read
        · cases read
        split at read
        · cases read
        split at read
        · obtain ⟨insert, -, read⟩ := exists_of_bind read
          cases read
          rfl
        · cases read
      subst rest_eq
      exact ((List.suffix_cons close rest).trans behind).trans (List.suffix_cons _ tokens)
  · cases read

/-- One insert is read of an escape, and two of a backslash in front of any other character. -/
theorem readEscape_cases (read : readEscape position c tokens = .ok (inserts, next, rest)) :
    (inserts.length = 1 ∧ rest <:+ tokens) ∨
      (inserts.length = 2 ∧ rest = tokens ∧ ¬ IsEscapable c) := by
  unfold readEscape at read
  split at read
  · obtain ⟨⟨insert, next', rest'⟩, named, read⟩ := exists_of_bind read
    cases read
    exact .inl ⟨rfl, suffix_of_namedReference named⟩
  split at read
  · dsimp only at read
    split at read
    · cases read
      exact .inl ⟨rfl, List.drop_suffix _ _⟩
    split at read
    · split at read
      · cases read
      · cases read
        exact .inl ⟨rfl, List.drop_suffix _ _⟩
    · obtain ⟨insert, -, read⟩ := exists_of_bind read
      cases read
      exact .inl ⟨rfl, List.drop_suffix _ _⟩
  · next digit =>
    split at read
    · cases read
      exact .inl ⟨rfl, List.suffix_rfl⟩
    · next control =>
      split at read
      · cases read
      · next letter =>
        cases read
        refine .inr ⟨rfl, rfl, ?_⟩
        rintro (alphanum | rfl)
        · rw [Char.isAlphanum, Bool.or_eq_true] at alphanum
          exact alphanum.elim letter digit
        · cases control

theorem one_le_length_text (token : Token) : 1 ≤ token.text.length := by
  cases token <;> simp [Token.text]

theorem length_flatMap_text_le (behind : rest <:+ tokens) :
    (rest.flatMap Token.text).length ≤ (tokens.flatMap Token.text).length := by
  obtain ⟨before, rfl⟩ := behind
  simp

/-- There are at most as many inserts as characters, and fewer if there is an escape. -/
theorem readTokens_bounds (read : readTokens fuel position tokens = .ok inserts) :
    inserts.length ≤ (tokens.flatMap Token.text).length ∧
      (inserts.length = (tokens.flatMap Token.text).length →
        ∀ c, .escaped c ∈ tokens → ¬ IsEscapable c) := by
  induction fuel generalizing position tokens inserts with
  | zero =>
    cases read
    cases tokens with
    | nil => simp
    | cons token tokens =>
      have := one_le_length_text token
      simp only [List.length_nil, List.flatMap_cons, List.length_append]
      omega
  | succ fuel ih =>
    cases tokens with
    | nil =>
      cases read
      simp
    | cons token tokens =>
      cases token with
      | plain c =>
        rw [readTokens] at read
        obtain ⟨more, told, read⟩ := exists_of_bind read
        cases read
        obtain ⟨least, equal⟩ := ih told
        simp only [List.flatMap_cons, Token.text, List.length_append, List.length_cons,
          List.length_nil, List.mem_cons, reduceCtorEq, false_or]
        exact ⟨by omega, fun same => equal (by omega)⟩
      | escaped c =>
        rw [readTokens] at read
        obtain ⟨⟨own, next, rest⟩, first, read⟩ := exists_of_bind read
        obtain ⟨more, told, read⟩ := exists_of_bind read
        cases read
        obtain ⟨least, equal⟩ := ih told
        simp only [List.flatMap_cons, Token.text, List.length_append, List.length_cons,
          List.length_nil]
        rcases readEscape_cases first with ⟨one, behind⟩ | ⟨two, rfl, plain⟩
        · have shorter := length_flatMap_text_le behind
          exact ⟨by omega, fun same => by omega⟩
        · refine ⟨by omega, fun same d mem => ?_⟩
          rcases List.mem_cons.mp mem with here | later
          · obtain rfl := Token.escaped.inj here
            exact plain
          · exact equal (by omega) d later

/-- An insert that refers to the clause makes the new text at least as long as the clause. -/
theorem length_text_le_length_expand (refers : .whole ∈ inserts) (c : Clause) :
    c.text.length ≤ (expand inserts c).length := by
  obtain ⟨before, after, rfl⟩ := List.append_of_mem refers
  rw [expand, List.flatMap_append, List.flatMap_cons]
  simp only [List.length_append]
  omega

theorem length_expand (own : .whole ∉ inserts) (c : Clause) :
    (expand inserts c).length = inserts.length := by
  induction inserts with
  | nil => rfl
  | cons insert inserts ih =>
    rw [List.mem_cons, not_or] at own
    rw [expand] at ih ⊢
    rw [List.flatMap_cons, List.length_append, ih own.2, List.length_cons]
    cases insert with
    | char | mark => exact Nat.add_comm _ _
    | whole => exact absurd rfl own.1

/-- A template that is put as it is in place of a clause longer than itself has no escape. -/
theorem not_hasEscape_of_expand {template : List Char} (read : readTemplate template = .ok inserts)
    {c : Clause} (long : template.length < c.text.length) (same : expand inserts c = template) :
    ¬ HasEscape template := by
  have own : .whole ∉ inserts := by
    intro refers
    have := length_text_le_length_expand refers c
    rw [same] at this
    omega
  have size : inserts.length = ((Token.ofChars template).flatMap Token.text).length := by
    rw [← length_expand own c, same, flatMap_text_ofChars]
  rw [hasEscape_iff]
  rintro ⟨e, escapable, mem⟩
  exact (readTokens_bounds read).2 size e mem escapable

end AmbientTypes.Declaration
