import AmbientTypes.Declaration.Directive

namespace AmbientTypes.Declaration

structure Clause where
  text : List Char
  mark : Char
  deriving DecidableEq, Repr

/-- A clause or a character outside of clauses. -/
inductive Piece where
  | plain (c : Char)
  | clause (clause : Clause)
  deriving DecidableEq, Repr

def isNameMark (c : Char) : Bool := c = '\'' || c = '"' || c = '\x60'

/-- What follows a clause for a module at the beginning of a text, and the quote of the clause. -/
def afterClause? (name cs : List Char) : Option (Char × List Char) := do
  let cs ← "declare".toList.isPrefixOf? cs
  let cs ← "module".toList.isPrefixOf? (← dropSome Text.isBlank cs)
  match ← dropSome Text.isBlank cs with
  | [] => none
  | mark :: cs =>
    if isNameMark mark then do
      let rest ← (name ++ [mark]).isPrefixOf? cs
      some (mark, rest)
    else none

theorem length_afterClause? {name cs rest : List Char} {mark : Char}
    (h : afterClause? name cs = some (mark, rest)) : rest.length < cs.length := by
  simp only [afterClause?, Option.bind_eq_bind, Option.bind_eq_some_iff] at h
  obtain ⟨a, ha, b, hb, c, hc, d, hd, h⟩ := h
  have h₁ := congrArg List.length (Text.eq_append_of_isPrefixOf? ha)
  have h₂ := length_dropSome hb
  have h₃ := congrArg List.length (Text.eq_append_of_isPrefixOf? hc)
  have h₄ := length_dropSome hd
  simp only [List.length_append] at h₁ h₃
  split at h
  · simp at h
  · next m cs' =>
    simp only [Option.ite_none_right_eq_some, Option.bind_eq_some_iff, Option.some.injEq,
      Prod.mk.injEq] at h
    obtain ⟨-, r, hr, -, rfl⟩ := h
    have h₅ := congrArg List.length (Text.eq_append_of_isPrefixOf? hr)
    simp only [List.length_append, List.length_cons] at h₄ h₅
    omega

def pieces (name cs : List Char) : List Piece :=
  match cs with
  | [] => []
  | c :: rest =>
    match _h : afterClause? name (c :: rest) with
    | some (mark, after) =>
      .clause ⟨(c :: rest).take ((c :: rest).length - after.length), mark⟩ :: pieces name after
    | none => .plain c :: pieces name rest
termination_by cs.length
decreasing_by
  · exact length_afterClause? _h
  · simp

def Piece.clause? : Piece → Option Clause
  | clause c => some c
  | plain _ => none

def clauses (name text : String) : List Clause :=
  (pieces name.toList text.toList).filterMap Piece.clause?

def replaceClauses (name : String) (new : Clause → List Char) (text : String) : String :=
  String.ofList <| (pieces name.toList text.toList).flatMap fun
    | .plain c => [c]
    | .clause c => new c

end AmbientTypes.Declaration
