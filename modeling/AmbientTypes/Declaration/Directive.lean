import AmbientTypes.Text.Affix
import AmbientTypes.Text.Blank

namespace AmbientTypes.Declaration

def isIndent (c : Char) : Bool := c = ' ' || c = '\t'

/-- Drops characters of which there must be one. -/
def dropSome (p : Char → Bool) : List Char → Option (List Char)
  | [] => none
  | c :: cs => if p c then some (cs.dropWhile p) else none

/-- Drops the end of a directive behind the closing quote. -/
def dropEnd (cs : List Char) : Option (List Char) :=
  match cs.dropWhile Text.isBlank with
  | '/' :: '>' :: rest => some rest
  | '>' :: rest => some rest
  | _ => none

/-- Reads a path and the end of its directive; `read` holds its characters so far, the last one
first. -/
def directivePath (mark : Char) (read : List Char) : List Char → Option (List Char × List Char)
  | [] => none
  | c :: cs =>
    match (if c = mark && !read.isEmpty then dropEnd cs else none) with
    | some rest => some (read.reverse, rest)
    | none => if c = '\n' then none else directivePath mark (c :: read) cs

def isPathMark (c : Char) : Bool := c = '"' || c = '\''

def directive? (cs : List Char) : Option (List Char × List Char) := do
  let cs ← "///".toList.isPrefixOf? (cs.dropWhile isIndent)
  let cs ← "<reference".toList.isPrefixOf? (cs.dropWhile isIndent)
  let cs ← "path".toList.isPrefixOf? (← dropSome Text.isBlank cs)
  let cs ← "=".toList.isPrefixOf? (cs.dropWhile Text.isBlank)
  match cs.dropWhile Text.isBlank with
  | mark :: cs => if isPathMark mark then directivePath mark [] cs else none
  | [] => none

theorem length_dropWhile_le {α : Type} (p : α → Bool) (l : List α) :
    (l.dropWhile p).length ≤ l.length :=
  (List.dropWhile_suffix p).length_le

theorem length_dropEnd {cs rest : List Char} (h : dropEnd cs = some rest) :
    rest.length < cs.length := by
  have := length_dropWhile_le Text.isBlank cs
  unfold dropEnd at h
  split at h <;> simp_all
  all_goals omega

theorem length_directivePath {mark : Char} {cs read path rest : List Char}
    (h : directivePath mark read cs = some (path, rest)) : rest.length < cs.length := by
  induction cs generalizing read with
  | nil => simp [directivePath] at h
  | cons c cs ih =>
    unfold directivePath at h
    split at h
    · next rest' hend =>
      simp only [Option.some.injEq, Prod.mk.injEq] at h
      split at hend
      · have := length_dropEnd hend
        simp_all only [List.length_cons]
        omega
      · simp at hend
    · split at h
      · simp at h
      · have := ih h
        simp only [List.length_cons]
        omega

theorem length_dropSome {p : Char → Bool} {cs rest : List Char} (h : dropSome p cs = some rest) :
    rest.length < cs.length := by
  cases cs with
  | nil => simp [dropSome] at h
  | cons c cs =>
    have := length_dropWhile_le p cs
    simp only [dropSome, Option.ite_none_right_eq_some, Option.some.injEq] at h
    simp only [← h.2, List.length_cons]
    omega

theorem length_directive? {cs path rest : List Char} (h : directive? cs = some (path, rest)) :
    rest.length < cs.length := by
  simp only [directive?, Option.bind_eq_bind, Option.bind_eq_some_iff] at h
  obtain ⟨a, ha, b, hb, c, hc, d, hd, e, he, h⟩ := h
  have h₁ := congrArg List.length (Text.eq_append_of_isPrefixOf? ha)
  have h₂ := congrArg List.length (Text.eq_append_of_isPrefixOf? hb)
  have h₃ := length_dropSome hc
  have h₄ := congrArg List.length (Text.eq_append_of_isPrefixOf? hd)
  have h₅ := congrArg List.length (Text.eq_append_of_isPrefixOf? he)
  have h₆ := length_dropWhile_le isIndent cs
  have h₇ := length_dropWhile_le isIndent a
  have h₈ := length_dropWhile_le Text.isBlank d
  have h₉ := length_dropWhile_le Text.isBlank e
  split at h
  · next mark rest' hmark =>
    simp only [Option.ite_none_right_eq_some] at h
    have := length_directivePath h.2
    simp only [hmark, List.length_append, List.length_cons] at h₁ h₂ h₄ h₅ h₉
    omega
  · simp at h

/-- The paths of all directives; `lineStart` says whether the text begins a line. -/
def directivesFrom (lineStart : Bool) (cs : List Char) : List (List Char) :=
  match cs with
  | [] => []
  | c :: rest =>
    match _h : if lineStart then directive? (c :: rest) else none with
    | some (path, after) => path :: directivesFrom false after
    | none => directivesFrom (c = '\n') rest
termination_by cs.length
decreasing_by
  · split at _h
    · exact length_directive? _h
    · simp at _h
  · simp

/-- The paths of the reference directives of a text, in order. -/
def referencePaths (text : String) : List String :=
  (directivesFrom true text.toList).map String.ofList

end AmbientTypes.Declaration
