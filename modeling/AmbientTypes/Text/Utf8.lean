namespace AmbientTypes.Text.Utf8

inductive Cause where
  | badStart
  | badContinuation
  | truncated
  deriving DecidableEq, Repr

/-- The outcome of reading one character. A fault covers its lead byte and `more` bytes after it. -/
inductive Step where
  | char (c : Char) (rest : List UInt8)
  | fault (cause : Cause) (more : Nat)

def isContinuation (b : UInt8) : Bool := 0x80 ≤ b && b < 0xC0

/-- The second bytes that a lead byte of three or four bytes admits. -/
def admitsSecond (lead b : UInt8) : Bool :=
  isContinuation b &&
    !(lead == 0xE0 && b < 0xA0) && !(lead == 0xED && 0xA0 ≤ b) &&
    !(lead == 0xF0 && b < 0x90) && !(lead == 0xF4 && 0x90 ≤ b)

def payload (b : UInt8) : Nat := b.toNat - 0x80

def step (lead : UInt8) (rest : List UInt8) : Step :=
  if lead < 0x80 then .char (Char.ofNat lead.toNat) rest
  else if lead < 0xC2 then .fault .badStart 0
  else if lead < 0xE0 then
    match rest with
    | [] => .fault .truncated 0
    | b :: rest =>
      if isContinuation b then
        .char (Char.ofNat ((lead.toNat - 0xC0) * 64 + payload b)) rest
      else .fault .badContinuation 0
  else if lead < 0xF0 then
    match rest with
    | [] => .fault .truncated 0
    | b :: rest =>
      if !admitsSecond lead b then .fault .badContinuation 0
      else match rest with
        | [] => .fault .truncated 1
        | b' :: rest =>
          if isContinuation b' then
            .char (Char.ofNat (((lead.toNat - 0xE0) * 64 + payload b) * 64 + payload b')) rest
          else .fault .badContinuation 1
  else if lead < 0xF5 then
    match rest with
    | [] => .fault .truncated 0
    | b :: rest =>
      if !admitsSecond lead b then .fault .badContinuation 0
      else match rest with
        | [] => .fault .truncated 1
        | b' :: rest =>
          if !isContinuation b' then .fault .badContinuation 1
          else match rest with
            | [] => .fault .truncated 2
            | b'' :: rest =>
              if isContinuation b'' then
                .char (Char.ofNat ((((lead.toNat - 0xF0) * 64 + payload b) * 64 + payload b') * 64
                  + payload b'')) rest
              else .fault .badContinuation 2
  else .fault .badStart 0

theorem length_lt_of_step {lead : UInt8} {bytes rest : List UInt8} {c : Char}
    (h : step lead bytes = .char c rest) : rest.length < bytes.length + 1 := by
  unfold step at h
  repeat' split at h
  all_goals simp only [Step.char.injEq, reduceCtorEq] at h
  all_goals
    obtain ⟨-, rfl⟩ := h
    grind

/-- Reads all bytes; each ill-formed part becomes one replacement character. -/
def decodeLossy (bytes : List UInt8) : List Char :=
  match bytes with
  | [] => []
  | lead :: more =>
    match _h : step lead more with
    | .char c rest => c :: decodeLossy rest
    | .fault _ skipped => '\ufffd' :: decodeLossy (more.drop skipped)
termination_by bytes.length
decreasing_by
  · exact length_lt_of_step _h
  · simp only [List.length_drop, List.length_cons]; omega

structure Fault where
  cause : Cause
  start : Nat
  size : Nat
  lead : UInt8
  deriving DecidableEq, Repr

/-- The bytes after a surrogate spelled in three bytes. -/
def afterSurrogate? (lead : UInt8) : List UInt8 → Option (List UInt8)
  | b :: b' :: rest =>
    if lead == 0xED && 0xA0 ≤ b && b < 0xC0 && isContinuation b' then some rest else none
  | _ => none

theorem length_of_afterSurrogate? {lead : UInt8} {bytes rest : List UInt8}
    (h : afterSurrogate? lead bytes = some rest) : rest.length < bytes.length + 1 := by
  unfold afterSurrogate? at h
  repeat' split at h
  all_goals simp only [Option.some.injEq, reduceCtorEq] at h
  subst h
  simp only [List.length_cons]
  omega

/-- Reads all bytes or reports the first ill-formed part. A surrogate spelled in three bytes is let
through; it is no character, so the replacement character stands for it. -/
def decodeFrom (start : Nat) (bytes : List UInt8) : Except Fault (List Char) :=
  match bytes with
  | [] => .ok []
  | lead :: more =>
    match _h : step lead more with
    | .char c rest => (c :: ·) <$> decodeFrom (start + (bytes.length - rest.length)) rest
    | .fault cause skipped =>
      match _h' : afterSurrogate? lead more with
      | some rest => ('\ufffd' :: ·) <$> decodeFrom (start + 3) rest
      | none => .error ⟨cause, start, skipped + 1, lead⟩
termination_by bytes.length
decreasing_by
  · exact length_lt_of_step _h
  · exact length_of_afterSurrogate? _h'

def decode (bytes : List UInt8) : Except Fault (List Char) := decodeFrom 0 bytes

end AmbientTypes.Text.Utf8
