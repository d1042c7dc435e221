import AmbientTypes.Syntax.Escape
import Mathlib.Data.List.TakeWhile
import Mathlib.Data.Nat.Digits.Defs
import Mathlib.Tactic.Ring

namespace AmbientTypes.Syntax

/-- A hexadecimal digit; a letter may be a capital. -/
structure HexDigit where
  value : Fin 16
  capital : Bool

namespace HexDigit

def small : Vector Char 16 :=
  #v['0', '1', '2', '3', '4', '5', '6', '7', '8', '9', 'a', 'b', 'c', 'd', 'e', 'f']

def capitals : Vector Char 16 :=
  #v['0', '1', '2', '3', '4', '5', '6', '7', '8', '9', 'A', 'B', 'C', 'D', 'E', 'F']

def char (d : HexDigit) : Char := if d.capital then capitals[d.value] else small[d.value]

/-- The number that digits write, the highest one first. -/
def number (ds : List HexDigit) : Nat := Nat.ofDigits 16 (ds.reverse.map fun d => d.value.val)

end HexDigit

/-- The ways to write a character inside a literal. -/
inductive Spelling (c : Char) where
  | plain
  | byte (digits : List HexDigit) (count : digits.length = 2)
      (value : HexDigit.number digits = c.toNat)
  | unit (digits : List HexDigit) (count : digits.length = 4)
      (value : HexDigit.number digits = c.toNat)
  | braced (digits : List HexDigit) (value : HexDigit.number digits = c.toNat)

/-- What stands behind the backslash of an escape; a plain character has none. -/
def Spelling.sequence? {c : Char} : Spelling c → Option (List Char)
  | plain => none
  | byte digits _ _ => some ('x' :: digits.map HexDigit.char)
  | unit digits _ _ => some ('u' :: digits.map HexDigit.char)
  | braced digits _ => some ('u' :: '\x7b' :: (digits.map HexDigit.char ++ ['\x7d']))

/-- The characters that names of modules are written with. -/
def isModuleChar (c : Char) : Bool :=
  c.isAlphanum || ['@', '/', ':', '.', '-', '_', '~', '^'].contains c

/-- A character of the name of a module, and how it is written. -/
structure Letter where
  char : Char
  named : isModuleChar char = true
  spelling : Spelling char

/-- The quotes that can stand around a literal. -/
inductive Quote where
  | single
  | double

def Quote.char : Quote → Char
  | single => '\''
  | double => '"'

namespace Letter

def text (l : Letter) : List Char := l.spelling.sequence?.elim [l.char] ('\\' :: ·)

/-- Parts with a character in front: plain characters in a row are one part. -/
def addPlain (c : Char) : List Part → List Part
  | .fragment text :: parts => .fragment (c :: text) :: parts
  | parts => .fragment [c] :: parts

/-- The parts that letters are read as. -/
def parts : List Letter → List Part
  | [] => []
  | l :: ls =>
    match l.spelling.sequence? with
    | none => addPlain l.char (parts ls)
    | some sequence => .escape sequence :: parts ls

end Letter

/-- A literal of letters in quotes. -/
def Quote.around (q : Quote) (ls : List Letter) : List Char :=
  q.char :: (ls.flatMap Letter.text ++ [q.char])

variable {c mark : Char} {cs rest sequence : List Char} {found : List Part}

namespace HexDigit

theorem isHex_char (d : HexDigit) : isHex d.char = true := by
  obtain ⟨value, capital⟩ := d
  revert value capital
  decide

theorem hexValue?_char (d : HexDigit) : Text.hexValue? d.char = some d.value.val := by
  obtain ⟨value, capital⟩ := d
  revert value capital
  decide

theorem isHex_of_mem_map_char {ds : List HexDigit} (mem : c ∈ ds.map char) : isHex c = true := by
  obtain ⟨d, -, rfl⟩ := List.mem_map.mp mem
  exact d.isHex_char

theorem takeWhile_map_char (ds : List HexDigit) :
    (ds.map char).takeWhile isHex = ds.map char :=
  List.takeWhile_eq_self_iff.mpr fun _ => isHex_of_mem_map_char

theorem takeWhile_braced (ds : List HexDigit) (rest : List Char) :
    (ds.map char ++ '\x7d' :: rest).takeWhile isHex = ds.map char := by
  rw [List.takeWhile_append_of_pos fun _ => isHex_of_mem_map_char,
    List.takeWhile_cons_of_neg (by decide), List.append_nil]

/-- No digit is an opening brace. -/
theorem map_char_append_ne {ds : List HexDigit} (full : 0 < ds.length) (rest : List Char) :
    ds.map char ++ rest ≠ '\x7b' :: cs := by
  intro braced
  obtain ⟨d, ds, rfl⟩ := List.exists_cons_of_length_pos full
  have brace : d.char = '\x7b' := (List.cons.inj braced).1
  exact absurd d.isHex_char (by rw [brace]; decide)

theorem digitsValue_map_char (ds : List HexDigit) : digitsValue 16 (ds.map char) = number ds := by
  -- Digits move the number in front of them up by their count of places.
  have step : ∀ n, (ds.map char).foldl (fun n c => n * 16 + (Text.hexValue? c).getD 0) n =
      n * 16 ^ ds.length + number ds := by
    induction ds with
    | nil => simp [number]
    | cons d ds ih =>
      intro n
      have first : number (d :: ds) = number ds + 16 ^ ds.length * d.value := by
        simp [number, Nat.ofDigits_append]
      rw [List.map_cons, List.foldl_cons, ih, first, hexValue?_char, Option.getD_some,
        List.length_cons, Nat.pow_succ]
      ring
  rw [digitsValue, step, Nat.zero_mul, Nat.zero_add]

end HexDigit

open HexDigit

section Digits

variable {digits : List HexDigit}

theorem escapeSize_byte (count : digits.length = 2) (rest : List Char) :
    escapeSize ('x' :: digits.map char ++ rest) = ('x' :: digits.map char).length := by
  rw [List.cons_append, escapeSize, List.take_left' (by simpa using count), takeWhile_map_char]
  rfl

theorem escapeSize_unit (count : digits.length = 4) (rest : List Char) :
    escapeSize ('u' :: digits.map char ++ rest) = ('u' :: digits.map char).length := by
  rw [List.cons_append, escapeSize, List.take_left' (by simpa using count), takeWhile_map_char]
  · rfl
  · exact fun cs => map_char_append_ne (by omega) rest

theorem escapeSize_braced (digits : List HexDigit) (rest : List Char) :
    escapeSize ('u' :: '\x7b' :: (digits.map char ++ ['\x7d']) ++ rest) =
      ('u' :: '\x7b' :: (digits.map char ++ ['\x7d'])).length := by
  rw [List.cons_append, List.cons_append, List.append_assoc, List.singleton_append, escapeSize,
    takeWhile_braced]
  simp

theorem escapePoints?_byte (digits : List HexDigit) :
    escapePoints? ('x' :: digits.map char) = some [number digits] := by
  rw [escapePoints?, digitsValue_map_char]

theorem escapePoints?_unit (count : digits.length = 4) :
    escapePoints? ('u' :: digits.map char) = some [number digits] := by
  rw [escapePoints?, digitsValue_map_char]
  intro cs
  rw [← List.append_nil (digits.map char)]
  exact map_char_append_ne (by omega) []

theorem escapePoints?_of_le (small : number digits ≤ 0x10FFFF) :
    escapePoints? ('u' :: '\x7b' :: (digits.map char ++ ['\x7d'])) = some [number digits] := by
  rw [escapePoints?, takeWhile_braced, digitsValue_map_char, if_pos small]

end Digits

theorem escapeSize_sequence {s : Spelling c} (spelled : s.sequence? = some sequence)
    (rest : List Char) : escapeSize (sequence ++ rest) = sequence.length := by
  cases s with
  | plain => cases spelled
  | byte digits count value =>
    obtain rfl := Option.some.inj spelled
    exact escapeSize_byte count rest
  | unit digits count value =>
    obtain rfl := Option.some.inj spelled
    exact escapeSize_unit count rest
  | braced digits value =>
    obtain rfl := Option.some.inj spelled
    exact escapeSize_braced digits rest

/-- The code points of characters leave out those of surrogates. -/
theorem toNat_range (c : Char) :
    c.toNat < 0xD800 ∨ (0xDFFF < c.toNat ∧ c.toNat < 0x110000) := c.valid

theorem escapePoints?_sequence {s : Spelling c} (spelled : s.sequence? = some sequence) :
    escapePoints? sequence = some [c.toNat] := by
  cases s with
  | plain => cases spelled
  | byte digits count value =>
    obtain rfl := Option.some.inj spelled
    rw [escapePoints?_byte, value]
  | unit digits count value =>
    obtain rfl := Option.some.inj spelled
    rw [escapePoints?_unit count, value]
  | braced digits value =>
    obtain rfl := Option.some.inj spelled
    have range := toNat_range c
    rw [escapePoints?_of_le (by omega), value]

theorem readParts_mark (mark : Char) (rest : List Char) :
    readParts mark (mark :: rest) = some ([], rest) := by
  rw [readParts, if_pos rfl]

theorem readParts_escape (other : mark ≠ '\\') (cs : List Char) :
    readParts mark ('\\' :: cs) = (readParts mark (cs.drop (escapeSize cs))).map
      fun read => (.escape (cs.take (escapeSize cs)) :: read.1, read.2) := by
  rw [readParts, if_neg (Ne.symm other), if_pos rfl]
  dsimp only
  cases readParts mark (cs.drop (escapeSize cs)) <;> rfl

theorem readParts_plain (plain : isPlain mark c = true) (cs : List Char) :
    readParts mark (c :: cs) = (readParts mark (cs.dropWhile (isPlain mark))).map
      fun read => (.fragment (c :: cs.takeWhile (isPlain mark)) :: read.1, read.2) := by
  have other := plain
  simp only [isPlain, Bool.and_eq_true, decide_eq_true_eq] at other
  rw [readParts, if_neg other.1.1.1, if_neg other.1.1.2, if_pos plain]
  cases readParts mark (cs.dropWhile (isPlain mark)) <;> rfl

/-- A plain character in front of what is read belongs to the fragment there, or is one. -/
theorem readParts_cons (plain : isPlain mark c = true) (other : mark ≠ '\\')
    (read : readParts mark cs = some (found, rest)) :
    readParts mark (c :: cs) = some (Letter.addPlain c found, rest) := by
  rw [readParts_plain plain]
  cases cs with
  | nil => simp [readParts] at read
  | cons d cs =>
    by_cases more : isPlain mark d = true
    · rw [readParts_plain more] at read
      rw [List.dropWhile_cons_of_pos more, List.takeWhile_cons_of_pos more]
      obtain ⟨tail, tailRead, same⟩ := Option.map_eq_some_iff.mp read
      obtain ⟨rfl, rfl⟩ := Prod.mk.inj same
      rw [tailRead]
      rfl
    · rw [List.dropWhile_cons_of_neg more, List.takeWhile_cons_of_neg more, read, Option.map_some]
      by_cases closed : d = mark
      · subst closed
        rw [readParts_mark] at read
        obtain ⟨rfl, rfl⟩ := Prod.mk.inj (Option.some.inj read)
        rfl
      by_cases escaped : d = '\\'
      · subst escaped
        rw [readParts_escape other] at read
        obtain ⟨tail, -, same⟩ := Option.map_eq_some_iff.mp read
        obtain ⟨rfl, rfl⟩ := Prod.mk.inj same
        rfl
      · rw [readParts, if_neg closed, if_neg escaped, if_neg more] at read
        cases read

theorem literal?_quote (q : Quote) (cs : List Char) :
    literal? (q.char :: cs) = readParts q.char cs := by
  cases q <;> rfl

theorem isPlain_of_isModuleChar (named : isModuleChar c = true) (q : Quote) :
    isPlain q.char c = true := by
  have apart : ∀ d, isModuleChar d = false → c ≠ d := by
    rintro d unnamed rfl
    rw [named] at unnamed
    cases unnamed
  have other : c ≠ q.char := by
    cases q with
    | single => exact apart '\'' (by decide)
    | double => exact apart '"' (by decide)
  simp [isPlain, other, apart '\\' (by decide), apart '\n' (by decide), apart '\r' (by decide)]

namespace Letter

theorem readParts_text (q : Quote) (l : Letter) {ls : List Letter}
    (read : readParts q.char cs = some (parts ls, rest)) :
    readParts q.char (l.text ++ cs) = some (parts (l :: ls), rest) := by
  have other : q.char ≠ '\\' := by cases q <;> decide
  unfold text parts
  cases spelled : l.spelling.sequence? with
  | none => exact readParts_cons (isPlain_of_isModuleChar l.named q) other read
  | some sequence =>
    rw [Option.elim_some, List.cons_append, readParts_escape other, escapeSize_sequence spelled,
      List.drop_left, List.take_left, read]
    rfl

theorem readParts_letters (q : Quote) (ls : List Letter) (rest : List Char) :
    readParts q.char (ls.flatMap text ++ q.char :: rest) = some (parts ls, rest) := by
  induction ls with
  | nil => exact readParts_mark q.char rest
  | cons l ls ih =>
    rw [List.flatMap_cons, List.append_assoc]
    exact readParts_text q l ih

/-- A literal of letters is read to its closing quote. -/
theorem literal?_around (q : Quote) (ls : List Letter) (rest : List Char) :
    literal? (q.around ls ++ rest) = some (parts ls, rest) := by
  rw [Quote.around, List.cons_append, literal?_quote, List.append_assoc]
  exact readParts_letters q ls rest

/-- The code points of a plain character come before those of the parts behind it. -/
theorem mapM_points?_addPlain (c : Char) {points : List (List Nat)}
    (known : found.mapM Part.points? = some points) :
    ∃ points', (addPlain c found).mapM Part.points? = some points' ∧
      points'.flatten = c.toNat :: points.flatten := by
  unfold addPlain
  split
  · next text parts =>
    rw [List.mapM_cons] at known ⊢
    obtain ⟨first, here, known⟩ := Option.bind_eq_some_iff.mp known
    obtain ⟨later, there, known⟩ := Option.bind_eq_some_iff.mp known
    obtain rfl := Option.some.inj known
    obtain rfl := Option.some.inj here
    refine ⟨(c :: text).map Char.toNat :: later, ?_, rfl⟩
    rw [there]
    rfl
  · refine ⟨[c.toNat] :: points, ?_, rfl⟩
    rw [List.mapM_cons, known]
    rfl

theorem mapM_points?_parts (ls : List Letter) :
    ∃ points, (parts ls).mapM Part.points? = some points ∧
      points.flatten = (ls.map char).map Char.toNat := by
  induction ls with
  | nil => exact ⟨[], rfl, rfl⟩
  | cons l ls ih =>
    obtain ⟨points, known, flat⟩ := ih
    unfold parts
    cases spelled : l.spelling.sequence? with
    | none =>
      obtain ⟨points', known', flat'⟩ := mapM_points?_addPlain l.char known
      exact ⟨points', known', by rw [flat', flat]; rfl⟩
    | some sequence =>
      refine ⟨[l.char.toNat] :: points, ?_, by rw [List.flatten_cons, flat]; rfl⟩
      dsimp only
      rw [List.mapM_cons, known, Part.points?, escapePoints?_sequence spelled]
      rfl

end Letter

theorem literalValue?_parts (ls : List Letter) :
    literalValue? (Letter.parts ls) = some (Text.points (String.ofList (ls.map Letter.char))) := by
  obtain ⟨points, known, flat⟩ := Letter.mapM_points?_parts ls
  rw [literalValue?, known, Option.map_some, flat, Text.points_ofList]

end AmbientTypes.Syntax
