import AmbientTypes.Proofs.Syntax.CodeUnit
import Mathlib.Data.List.Chain

namespace AmbientTypes.Syntax

/-- The line endings that a backslash takes out of a literal. -/
def lineEndings : List (List Char) := [['\n'], ['\r'], ['\r', '\n'], ['\u2028'], ['\u2029']]

/-- Letters of escapes, and the characters that they stand for. -/
def namedEscapes : List (Char × Char) := [('\'', '\''), ('"', '"'), ('\\', '\\'), ('b', '\x08'),
  ('f', '\x0c'), ('n', '\n'), ('r', '\r'), ('t', '\t'), ('v', '\x0b')]

/-- The characters that stand for themselves behind a backslash. -/
def isIdentity (c : Char) : Bool :=
  !(namedEscapes.any (·.1 = c) || c.isDigit || c = 'x' || c = 'u' || isLineBreak c)

/-- The escapes of strict code. -/
inductive Escape where
  | continuation (ending : List Char) (known : ending ∈ lineEndings)
  | named (letter value : Char) (known : (letter, value) ∈ namedEscapes)
  | identity (c : Char) (free : isIdentity c = true)
  | null
  | byte (digits : List HexDigit) (count : digits.length = 2)
  | unit (digits : List HexDigit) (count : digits.length = 4)
  | braced (digits : List HexDigit) (some : digits ≠ []) (small : HexDigit.number digits ≤ 0x10FFFF)

namespace Escape

/-- What stands behind the backslash. -/
def sequence : Escape → List Char
  | continuation ending _ => ending
  | named letter _ _ => [letter]
  | identity c _ => [c]
  | null => ['0']
  | byte digits _ => 'x' :: digits.map HexDigit.char
  | unit digits _ => 'u' :: digits.map HexDigit.char
  | braced digits _ _ => 'u' :: '\x7b' :: (digits.map HexDigit.char ++ ['\x7d'])

/-- The code points that an escape stands for. -/
def points : Escape → List Nat
  | continuation _ _ => []
  | named _ value _ => [value.toNat]
  | identity c _ => [c.toNat]
  | null => [0]
  | byte digits _ => [HexDigit.number digits]
  | unit digits _ => [HexDigit.number digits]
  | braced digits _ _ => [HexDigit.number digits]

/-- Escapes that are read as something else: continued lines but for those that end in a line feed,
and characters that stand for themselves but for two letters. -/
def isMisread : Escape → Bool
  | continuation ending _ => ending ≠ ['\n']
  | identity c _ => c ≠ 'N' && c ≠ 'U'
  | _ => false

end Escape

/-- A piece of a literal in quotes. -/
inductive Element (q : Quote) where
  | plain (c : Char) (other : c ∉ [q.char, '\\', '\n', '\r'])
  | escape (e : Escape)

namespace Element

variable {q : Quote}

def text : Element q → List Char
  | plain c _ => [c]
  | escape e => '\\' :: e.sequence

def points : Element q → List Nat
  | plain c _ => [c.toNat]
  | escape e => e.points

def isMisread : Element q → Bool
  | plain _ _ => false
  | escape e => e.isMisread

/-- An element that stands for one half of a character. -/
def isHalf (e : Element q) : Bool := e.points.any isSurrogate

/-- No digit stands behind the escape of the null character. -/
def MayPrecede : Element q → Element q → Prop
  | escape .null, plain c _ => c.isDigit = false
  | _, _ => True

end Element

/-- A literal of strict code. -/
structure Literal where
  quote : Quote
  elements : List (Element quote)
  apart : elements.IsChain Element.MayPrecede

namespace Literal

def text (l : Literal) : List Char :=
  l.quote.char :: (l.elements.flatMap Element.text ++ [l.quote.char])

/-- The code units that a literal stands for. -/
def value (l : Literal) : List Nat := units (l.elements.flatMap Element.points)

end Literal

variable {c d : Char} {cs rest : List Char}

/-- A character that begins no number. -/
def IsSingle (c : Char) : Prop := c ≠ 'x' ∧ c ≠ 'u' ∧ isOctal c = false

/-- The pairs of characters that are read together behind a backslash. -/
def joins (c d : Char) : Bool :=
  (c = '\r' || c = '?') && (d = '\n' || d = '\u2028' || d = '\u2029')

theorem escapeSize_of_isSingle (single : IsSingle c) (rest : List Char) :
    escapeSize (c :: rest) = if rest.head?.any (joins c) then 2 else 1 := by
  obtain ⟨x, u, octal⟩ := single
  rw [escapeSize, octal, if_neg Bool.false_ne_true]
  · cases rest with
    | nil => simp
    | cons d rest => rfl
  · exact fun _ same => absurd same u
  · exact u
  · exact x

theorem escapeSize_single (single : IsSingle c) (ends : ∀ d ∈ rest.head?, joins c d = false) :
    escapeSize (c :: rest) = 1 := by
  rw [escapeSize_of_isSingle single, if_neg]
  rw [Bool.not_eq_true, Option.any_eq_false]
  exact ends

theorem escapeSize_joined (single : IsSingle c) (pair : joins c d = true) (rest : List Char) :
    escapeSize (c :: d :: rest) = 2 := by
  rw [escapeSize_of_isSingle single, if_pos]
  exact pair

theorem isSingle_of_joins (pair : joins c d = true) : IsSingle c := by
  simp only [joins, Bool.and_eq_true, Bool.or_eq_true, decide_eq_true_eq] at pair
  unfold IsSingle
  rcases pair.1 with rfl | rfl <;> decide

theorem isSingle_of_isLineBreak (ends : isLineBreak c = true) : IsSingle c := by
  simp only [isLineBreak, Bool.or_eq_true, decide_eq_true_eq] at ends
  unfold IsSingle
  rcases ends with ((rfl | rfl) | rfl) | rfl <;> decide

theorem eq_or_exists_of_mem_lineEndings {ending : List Char} (known : ending ∈ lineEndings) :
    ending = ['\r', '\n'] ∨ ∃ c, ending = [c] ∧ isLineBreak c = true := by
  simp only [lineEndings, List.mem_cons, List.not_mem_nil, or_false] at known
  rcases known with rfl | rfl | rfl | rfl | rfl
  case inr.inr.inl => exact .inl rfl
  all_goals exact .inr ⟨_, rfl, rfl⟩

theorem isSingle_of_named {letter value : Char} (known : (letter, value) ∈ namedEscapes) :
    IsSingle letter := by
  have each : ∀ p ∈ namedEscapes, IsSingle p.1 := by
    unfold IsSingle
    decide
  exact each _ known

theorem isDigit_of_isOctal (octal : isOctal c = true) : c.isDigit = true := by
  simp only [isOctal, Bool.and_eq_true, decide_eq_true_eq] at octal
  simp only [Char.isDigit, Bool.and_eq_true, decide_eq_true_eq]
  exact ⟨octal.1, UInt32.le_trans octal.2 (by decide)⟩

theorem isOctal_of_not_isDigit (other : c.isDigit = false) : isOctal c = false := by
  rw [← Bool.not_eq_true] at other ⊢
  exact fun octal => other (isDigit_of_isOctal octal)

theorem isSingle_of_isIdentity (free : isIdentity c = true) : IsSingle c := by
  simp only [isIdentity, Bool.not_eq_true', Bool.or_eq_false_iff, decide_eq_false_iff_not] at free
  obtain ⟨⟨⟨⟨-, digit⟩, x⟩, u⟩, -⟩ := free
  exact ⟨x, u, isOctal_of_not_isDigit digit⟩

theorem escapeSize_null (ends : ∀ d ∈ rest.head?, isOctal d = false) :
    escapeSize ('0' :: rest) = 1 := by
  cases rest with
  | nil => rfl
  | cons d rest =>
    change (((d :: rest).take 2).takeWhile isOctal).length + 1 = 1
    rw [List.take_succ_cons, List.takeWhile_cons_of_neg (Bool.eq_false_iff.mp (ends d rfl))]
    rfl

namespace Escape

/-- What stands behind an escape does not run into it. -/
def Ends (e : Escape) (rest : List Char) : Prop :=
  ∀ d ∈ rest.head?, (e = null → isOctal d = false) ∧ ∀ c, e.sequence = [c] → joins c d = false

theorem escapeSize_append {e : Escape} (ends : e.Ends rest) :
    escapeSize (e.sequence ++ rest) = e.sequence.length := by
  cases e with
  | continuation ending known =>
    rcases eq_or_exists_of_mem_lineEndings known with rfl | ⟨c, rfl, line⟩
    · exact escapeSize_joined (isSingle_of_isLineBreak rfl) rfl rest
    · have single := isSingle_of_isLineBreak line
      exact escapeSize_single single fun d mem => (ends d mem).2 c rfl
  | named letter value known =>
    exact escapeSize_single (isSingle_of_named known) fun d mem => (ends d mem).2 letter rfl
  | identity c free =>
    exact escapeSize_single (isSingle_of_isIdentity free) fun d mem => (ends d mem).2 c rfl
  | null => exact escapeSize_null fun d mem => (ends d mem).1 rfl
  | byte digits count => exact escapeSize_byte count rest
  | unit digits count => exact escapeSize_unit count rest
  | braced digits some small => exact escapeSize_braced digits rest

end Escape

section Behind

variable {q : Quote}

theorem Escape.ends_cons (e : Escape) (special : d = q.char ∨ d = '\\') : e.Ends (d :: rest) := by
  have apart : isOctal d = false ∧ (d = '\n' || d = '\u2028' || d = '\u2029') = false := by
    rcases special with rfl | rfl
    · cases q <;> decide
    · decide
  intro d' mem
  obtain rfl := Option.some.inj mem
  refine ⟨fun _ => apart.1, fun c _ => ?_⟩
  rw [joins, apart.2, Bool.and_false]

/-- What stands behind an escape runs into it only if it is a plain character. -/
theorem Escape.ends_or_joined (e : Escape) (es : List (Element q))
    (apart : (Element.escape e :: es).IsChain Element.MayPrecede) :
    (∀ rest, e.Ends (es.flatMap Element.text ++ q.char :: rest)) ∨
    ∃ c d other later, e.sequence = [c] ∧ joins c d = true ∧ es = .plain d other :: later := by
  cases es with
  | nil => exact .inl fun rest => e.ends_cons (.inl rfl)
  | cons f es =>
    cases f with
    | escape f => exact .inl fun rest => e.ends_cons (q := q) (.inr rfl)
    | plain d other =>
      by_cases joined : ∃ c, e.sequence = [c] ∧ joins c d = true
      · obtain ⟨c, sequence, pair⟩ := joined
        exact .inr ⟨c, d, other, es, sequence, pair, rfl⟩
      · refine .inl fun rest d' mem => ?_
        obtain rfl : d = d' := Option.some.inj mem
        refine ⟨?_, fun c sequence => ?_⟩
        · rintro rfl
          exact isOctal_of_not_isDigit (List.isChain_cons_cons.mp apart).1
        · exact Bool.eq_false_iff.mpr fun pair => joined ⟨c, sequence, pair⟩

end Behind

end AmbientTypes.Syntax
