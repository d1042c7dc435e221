import AmbientTypes.Proofs.Syntax.Element
import AmbientTypes.Proofs.Text.Utf8
import AmbientTypes.Syntax.Import

namespace AmbientTypes.Syntax

/-- The code points that stand where something is misread: backslashes, and the bell for one
letter. -/
def isTrace (n : Nat) : Bool := n = 0x5C || n = 0x07

/-- The code points that are found against those that are meant, where some escapes are misread:
each leaves a trace behind, and no halves of characters are lost or made. -/
structure Agrees (found meant : List Nat) (misread : Nat) : Prop where
  same : misread = 0 → found = meant
  traces : found.countP isTrace = meant.countP isTrace + misread
  halves : found.countP isSurrogate = meant.countP isSurrogate

variable {c d : Char} {cs rest : List Char} {n m : Nat} {found found' meant meant' : List Nat}

theorem isTrace_of_lt (large : 0x5C < n) : isTrace n = false := by
  simp only [isTrace, Bool.or_eq_false_iff, decide_eq_false_iff_not]
  omega

theorem countP_isTrace_bytePoints (c : Char) :
    (bytePoints c).countP isTrace = [c.toNat].countP isTrace := by
  rcases Text.Utf8.utf8EncodeChar_cases c with ⟨-, bytes⟩ | ⟨large, high⟩
  · rw [bytePoints, bytes]
  · have none : (bytePoints c).countP isTrace = 0 := by
      rw [List.countP_eq_zero]
      intro n mem
      obtain ⟨b, byte, rfl⟩ := List.mem_map.mp mem
      rw [isTrace_of_lt (Nat.lt_of_lt_of_le (by decide) (high b byte))]
      exact Bool.false_ne_true
    rw [none, List.countP_singleton, isTrace_of_lt (Nat.lt_of_lt_of_le (by decide) large),
      if_neg Bool.false_ne_true]

theorem countP_isTrace_flatMap_bytePoints (cs : List Char) :
    (cs.flatMap bytePoints).countP isTrace = (cs.map Char.toNat).countP isTrace := by
  induction cs with
  | nil => rfl
  | cons c cs ih =>
    rw [List.flatMap_cons, List.countP_append, countP_isTrace_bytePoints, ih, ← List.countP_append]
    rfl

theorem countP_isSurrogate_flatMap_bytePoints (cs : List Char) :
    (cs.flatMap bytePoints).countP isSurrogate = 0 := by
  rw [List.countP_eq_zero]
  intro n mem
  obtain ⟨c, -, mem⟩ := List.mem_flatMap.mp mem
  obtain ⟨b, -, rfl⟩ := List.mem_map.mp mem
  have small := b.toNat_lt
  simp only [isSurrogate, Bool.and_eq_true, decide_eq_true_eq]
  omega

theorem isSurrogate_toNat (c : Char) : isSurrogate c.toNat = false := by
  have range := toNat_range c
  simp only [isSurrogate, Bool.and_eq_false_iff, decide_eq_false_iff_not]
  omega

theorem countP_isSurrogate_map_toNat (cs : List Char) :
    (cs.map Char.toNat).countP isSurrogate = 0 := by
  rw [List.countP_eq_zero]
  intro n mem
  obtain ⟨c, -, rfl⟩ := List.mem_map.mp mem
  rw [isSurrogate_toNat]
  exact Bool.false_ne_true

theorem countP_isTrace_units (ns : List Nat) : (units ns).countP isTrace = ns.countP isTrace := by
  induction ns with
  | nil => rfl
  | cons n ns ih =>
    rcases Nat.lt_or_ge n 0x10000 with small | large
    · rw [units_cons_of_lt small, List.countP_cons, List.countP_cons, ih]
    · have high : isTrace (0xD800 + (n - 0x10000) / 0x400) = false := isTrace_of_lt (by omega)
      have low : isTrace (0xDC00 + (n - 0x10000) % 0x400) = false := isTrace_of_lt (by omega)
      have whole : isTrace n = false := isTrace_of_lt (by omega)
      rw [units_cons_of_le large, List.countP_cons, List.countP_cons, List.countP_cons, high, low,
        whole, ih]
      rfl

namespace Agrees

theorem refl (meant : List Nat) : Agrees meant meant 0 := ⟨fun _ => rfl, rfl, rfl⟩

theorem append (first : Agrees found meant n) (second : Agrees found' meant' m) :
    Agrees (found ++ found') (meant ++ meant') (n + m) where
  same none := by rw [first.same (by omega), second.same (by omega)]
  traces := by
    rw [List.countP_append, List.countP_append, first.traces, second.traces]
    omega
  halves := by rw [List.countP_append, List.countP_append, first.halves, second.halves]

/-- An escape that is not known. -/
theorem unknown (cs chars : List Char)
    (meant : (cs.map Char.toNat).countP isTrace = (chars.map Char.toNat).countP isTrace) :
    Agrees (0x5C :: cs.flatMap bytePoints) (chars.map Char.toNat) 1 where
  same none := by cases none
  traces := by
    rw [List.countP_cons_of_pos rfl, countP_isTrace_flatMap_bytePoints, meant]
  halves := by
    rw [List.countP_cons_of_neg Bool.false_ne_true, countP_isSurrogate_flatMap_bytePoints,
      countP_isSurrogate_map_toNat]

/-- The code units that are found are those that are meant if nothing is misread. -/
theorem units_eq_iff (agrees : Agrees found meant n) : units found = units meant ↔ n = 0 := by
  constructor
  · intro same
    -- What is misread shows in the code units, since their traces are those of the code points.
    have found_traces := countP_isTrace_units found
    have meant_traces := countP_isTrace_units meant
    have traces := agrees.traces
    rw [same] at found_traces
    omega
  · intro none
    rw [agrees.same none]

/-- The characters of the text that is meant are found if, besides, none is written in halves. -/
theorem eq_map_toNat_iff (agrees : Agrees found meant n) (value : units meant = textUnits cs) :
    found = cs.map Char.toNat ↔ n = 0 ∧ meant.countP isSurrogate = 0 := by
  constructor
  · intro same
    refine ⟨agrees.units_eq_iff.mp ?_, ?_⟩
    · rw [value, same, textUnits]
    · rw [← agrees.halves, same, countP_isSurrogate_map_toNat]
  · intro h
    obtain ⟨none, whole⟩ := h
    rw [agrees.same none]
    rw [List.countP_eq_zero] at whole
    exact eq_of_units_eq value fun p mem => Bool.eq_false_iff.mpr (whole p mem)

end Agrees

theorem escapePoints?_single (single : IsSingle c) (cs : List Char)
    (unknown : cs ≠ [] ∨ letterEscape? c = none) :
    escapePoints? (c :: cs) = some (0x5C :: (c :: cs).flatMap bytePoints) := by
  obtain ⟨x, u, octal⟩ := single
  rw [escapePoints?, octal, if_neg Bool.false_ne_true]
  · exact u
  · exact x
  · exact fun _ same => absurd same u
  · rintro points rfl known
    rcases unknown with more | unknown
    · exact more rfl
    · rw [unknown] at known
      cases known

theorem letterEscape?_of_isIdentity (free : isIdentity c = true) :
    letterEscape? c = none ∨ c = 'a' ∨ c = 'N' ∨ c = 'U' := by
  unfold letterEscape?
  split
  case h_14 => exact .inl rfl
  all_goals first
    | exact absurd free (by decide)
    | simp

namespace Escape

theorem exists_escapePoints?_continuation {ending : List Char} (known : ending ∈ lineEndings) :
    ∃ found, escapePoints? ending = some found ∧
      Agrees found [] (if (continuation ending known).isMisread then 1 else 0) := by
  rcases eq_or_exists_of_mem_lineEndings known with rfl | ⟨c, rfl, line⟩
  · have single : IsSingle '\r' := isSingle_of_isLineBreak rfl
    have lost := escapePoints?_single single ['\n'] (.inl (List.cons_ne_nil _ _))
    exact ⟨_, lost, .unknown ['\r', '\n'] [] rfl⟩
  · have single := isSingle_of_isLineBreak line
    simp only [isLineBreak, Bool.or_eq_true, decide_eq_true_eq] at line
    rcases line with ((rfl | rfl) | rfl) | rfl
    · exact ⟨[], rfl, .refl _⟩
    all_goals exact ⟨_, escapePoints?_single single [] (.inr rfl), .unknown [_] [] rfl⟩

theorem exists_escapePoints?_identity (free : isIdentity c = true) :
    ∃ found, escapePoints? [c] = some found ∧
      Agrees found [c.toNat] (if (identity c free).isMisread then 1 else 0) := by
  -- Three of the characters have an escape of their own: the bell, and two without a backslash.
  rcases letterEscape?_of_isIdentity free with unknown | rfl | rfl | rfl
  · have lost := escapePoints?_single (isSingle_of_isIdentity free) [] (.inr unknown)
    have other : ∀ d, letterEscape? d ≠ none → c ≠ d := by
      rintro d some rfl
      exact some unknown
    have misread : isMisread (identity c free) = true := by
      simp [isMisread, other 'N' (by decide), other 'U' (by decide)]
    rw [misread, if_pos rfl]
    exact ⟨_, lost, .unknown [c] [c] rfl⟩
  · exact ⟨[0x07], rfl, fun none => absurd none Nat.one_ne_zero, rfl, rfl⟩
  all_goals exact ⟨_, rfl, .refl _⟩

/-- Every escape is read; if it is misread, then with a trace. -/
theorem exists_escapePoints? (e : Escape) :
    ∃ found, escapePoints? e.sequence = some found ∧
      Agrees found e.points (if e.isMisread then 1 else 0) := by
  cases e with
  | continuation ending known => exact exists_escapePoints?_continuation known
  | named letter value known =>
    have each : ∀ p ∈ namedEscapes, escapePoints? [p.1] = some [p.2.toNat] := by decide
    exact ⟨[value.toNat], each _ known, .refl _⟩
  | identity c free => exact exists_escapePoints?_identity free
  | null => exact ⟨[0], rfl, .refl _⟩
  | byte digits count => exact ⟨_, escapePoints?_byte digits, .refl _⟩
  | unit digits count => exact ⟨_, escapePoints?_unit count, .refl _⟩
  | braced digits some small => exact ⟨_, escapePoints?_of_le small, .refl _⟩

/-- Of the escapes that run into another character, all are misread. -/
theorem agrees_joined {e : Escape} (sequence : e.sequence = [c]) (pair : joins c d = true) :
    Agrees (0x5C :: [c, d].flatMap bytePoints) (e.points ++ [d.toNat])
      (if e.isMisread then 1 else 0) := by
  have first : c = '\r' ∨ c = '?' := by
    simp only [joins, Bool.and_eq_true, Bool.or_eq_true, decide_eq_true_eq] at pair
    exact pair.1
  cases e with
  | continuation ending known =>
    obtain rfl : ending = [c] := sequence
    rcases first with rfl | rfl
    all_goals exact .unknown [_, d] [d] rfl
  | named letter value known =>
    obtain rfl : letter = c := List.singleton_inj.mp sequence
    have each : ∀ p ∈ namedEscapes, ¬ (p.1 = '\r' ∨ p.1 = '?') := by decide
    exact absurd first (each _ known)
  | identity c' free =>
    obtain rfl : c' = c := List.singleton_inj.mp sequence
    rcases first with rfl | rfl
    all_goals exact .unknown [_, d] [_, d] rfl
  | _ =>
    obtain ⟨rfl, -⟩ := List.cons.inj sequence
    cases pair

end Escape

section Reading

variable {q : Quote} {front es : List (Element q)}

/-- What is read of elements, with any text behind the closing quote. -/
def Reads (es : List (Element q)) : Prop :=
  ∀ rest, ∃ parts found, readParts q.char (es.flatMap Element.text ++ q.char :: rest) =
      some (parts, rest) ∧ parts.mapM Part.points? = some found ∧
    Agrees found.flatten (es.flatMap Element.points) (es.countP Element.isMisread)

theorem Quote.char_ne_backslash (q : Quote) : q.char ≠ '\\' := by
  cases q <;> decide

theorem Reads.nil : Reads ([] : List (Element q)) :=
  fun rest => ⟨[], [], readParts_mark q.char rest, rfl, .refl []⟩

theorem Reads.plain {other : c ∉ [q.char, '\\', '\n', '\r']} (later : Reads es) :
    Reads (.plain c other :: es) := by
  intro rest
  obtain ⟨parts, found, read, known, agrees⟩ := later rest
  obtain ⟨found', known', flat⟩ := Letter.mapM_points?_addPlain c known
  have plain : isPlain q.char c = true := by
    simpa [isPlain, and_assoc] using other
  refine ⟨_, found', readParts_cons plain q.char_ne_backslash read, known', ?_⟩
  rw [flat, List.countP_cons_of_neg Bool.false_ne_true, ← Nat.zero_add (es.countP _)]
  exact (Agrees.refl [c.toNat]).append agrees

/-- Elements in front that are read as one escape. -/
theorem Reads.append {sequence : List Char} {points : List Nat} (later : Reads es)
    (text : front.flatMap Element.text = '\\' :: sequence)
    (size : ∀ rest, escapeSize (sequence ++ (es.flatMap Element.text ++ q.char :: rest)) =
      sequence.length)
    (known : escapePoints? sequence = some points)
    (agrees : Agrees points (front.flatMap Element.points) (front.countP Element.isMisread)) :
    Reads (front ++ es) := by
  intro rest
  obtain ⟨parts, found, read, known', agrees'⟩ := later rest
  refine ⟨.escape sequence :: parts, points :: found, ?_, ?_, ?_⟩
  · rw [List.flatMap_append, text, List.append_assoc, List.cons_append,
      readParts_escape q.char_ne_backslash, size, List.drop_left, List.take_left, read]
    rfl
  · rw [List.mapM_cons, Part.points?, known, known']
    rfl
  · rw [List.flatten_cons, List.flatMap_append, List.countP_append]
    exact agrees.append agrees'

/-- A plain character that the escape in front of it is read together with. -/
theorem Reads.joined {e : Escape} {other : d ∉ [q.char, '\\', '\n', '\r']} (later : Reads es)
    (sequence : e.sequence = [c]) (pair : joins c d = true) :
    Reads (.escape e :: .plain d other :: es) := by
  have single := isSingle_of_joins pair
  have text : [Element.escape e, .plain d other].flatMap Element.text = ['\\', c, d] := by
    rw [List.flatMap_cons, Element.text, sequence]
    rfl
  have known := escapePoints?_single single [d] (.inl (List.cons_ne_nil d []))
  refine later.append text (fun rest => escapeSize_joined single pair _) known ?_
  have count : [Element.escape e, .plain d other].countP Element.isMisread =
      if e.isMisread then 1 else 0 := by
    rw [List.countP_cons, List.countP_singleton]
    exact Nat.zero_add _
  rw [count]
  exact Escape.agrees_joined sequence pair

theorem Reads.apart {e : Escape} (later : Reads es)
    (ends : ∀ rest, e.Ends (es.flatMap Element.text ++ q.char :: rest)) :
    Reads (.escape e :: es) := by
  obtain ⟨points, known, agrees⟩ := e.exists_escapePoints?
  have text : [Element.escape (q := q) e].flatMap Element.text = '\\' :: e.sequence :=
    List.append_nil _
  refine later.append text (fun rest => Escape.escapeSize_append (ends rest)) known ?_
  rw [List.countP_singleton, List.flatMap_cons, List.flatMap_nil, List.append_nil]
  exact agrees

theorem reads_of_apart (es : List (Element q)) (apart : es.IsChain Element.MayPrecede) :
    Reads es := by
  -- on the count of elements: two of them may be read at once
  induction count : es.length using Nat.strong_induction_on generalizing es with
  | _ k ih =>
    subst count
    cases es with
    | nil => exact .nil
    | cons e es =>
      have later := ih es.length (Nat.lt_succ_self _) es apart.of_cons rfl
      cases e with
      | plain c other => exact later.plain
      | escape e =>
        rcases e.ends_or_joined es apart with ends | ⟨c, d, other, later', sequence, pair, rfl⟩
        · exact later.apart ends
        · have shorter := Nat.lt_trans (Nat.lt_succ_self later'.length) (Nat.lt_succ_self _)
          exact (ih _ shorter later' apart.of_cons.of_cons rfl).joined sequence pair

end Reading

/-- Every literal of strict code is read to its end and has a value. That is the text which the
literal stands for, exactly if none of its escapes is misread and none spells half of a character.
The code units are right exactly if no escape is misread. -/
theorem literal_keeps_value_iff (l : Literal) (s : String) (value : l.value = textUnits s.toList)
    (rest : List Char) :
    ∃ parts found, literal? (l.text ++ rest) = some (parts, rest) ∧
      literalValue? parts = some found ∧
      (found = Text.points s ↔
        (∀ e ∈ l.elements, e.isMisread = false) ∧ ∀ e ∈ l.elements, e.isHalf = false) ∧
      (units found = l.value ↔ ∀ e ∈ l.elements, e.isMisread = false) := by
  obtain ⟨parts, found, read, known, agrees⟩ := reads_of_apart l.elements l.apart rest
  have misread : l.elements.countP Element.isMisread = 0 ↔
      ∀ e ∈ l.elements, e.isMisread = false := by
    simp only [List.countP_eq_zero, Bool.not_eq_true]
  have halves : (l.elements.flatMap Element.points).countP isSurrogate = 0 ↔
      ∀ e ∈ l.elements, e.isHalf = false := by
    simp only [List.countP_eq_zero, List.mem_flatMap, Element.isHalf, List.any_eq_false,
      forall_exists_index, and_imp]
    exact ⟨fun none e mem n => none n e mem, fun none n e mem => none e mem n⟩
  refine ⟨parts, found.flatten, ?_, ?_, ?_, ?_⟩
  · rw [Literal.text, List.cons_append, literal?_quote, List.append_assoc]
    exact read
  · rw [literalValue?, known, Option.map_some]
  · rw [← misread, ← halves]
    exact agrees.eq_map_toNat_iff value
  · rw [← misread]
    exact agrees.units_eq_iff

example : (importSpecifiers "import \"\\uD83D\\uDE00\"").toOption = some [[0xD83D, 0xDE00]] := by
  decide +kernel

/-- Digits without capitals. -/
def smallDigits (values : List (Fin 16)) : List HexDigit := values.map (⟨·, false⟩)

/-- A literal with a continued line and escapes of all kinds of numbers. -/
def spelled : Literal where
  quote := .double
  elements := [.plain 'l' (by decide), .escape (.continuation ['\n'] (by decide)),
    .escape (.byte (smallDigits [6, 15]) rfl), .escape (.unit (smallDigits [0, 0, 6, 4]) rfl),
    .escape (.braced (smallDigits [0, 6, 1]) (by decide) (by decide)),
    .escape (.braced (smallDigits [1, 15, 6, 0, 0]) (by decide) (by decide))]
  apart := by simp [Element.MayPrecede]

theorem spellings_keep_value :
    spelled.value = textUnits "loda😀".toList ∧
    ∃ parts, literal? (spelled.text ++ [';']) = some (parts, [';']) ∧
      literalValue? parts = some (Text.points "loda😀") := by
  have value : spelled.value = textUnits "loda😀".toList := by decide +kernel
  obtain ⟨parts, found, read, known, kept, -⟩ :=
    literal_keeps_value_iff spelled "loda😀" value [';']
  have same : found = Text.points "loda😀" := by
    apply kept.mpr
    constructor <;> decide
  rw [same] at known
  exact ⟨value, parts, read, known⟩

/-- A literal with a letter that stands for itself behind a backslash. -/
def slashed : Literal where
  quote := .double
  elements := [.plain 'l' (by decide), .escape (.identity 'o' (by decide)), .plain 'd' (by decide),
    .plain 'a' (by decide), .plain 's' (by decide), .plain 'h' (by decide)]
  apart := by simp [Element.MayPrecede]

/-- Its backslash stays. -/
theorem identity_escape_keeps_backslash :
    slashed.value = textUnits "lodash".toList ∧
    (importSpecifiers ("import " ++ String.ofList slashed.text)).toOption = some
      [Text.points "l\\odash"] := by
  decide +kernel

end AmbientTypes.Syntax
