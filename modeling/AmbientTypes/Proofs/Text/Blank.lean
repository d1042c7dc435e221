import AmbientTypes.Text.Blank
import Mathlib.Data.List.DropRight

namespace AmbientTypes.Text

variable {p : Char → Bool} {cs ends : List Char} {c : Char}

theorem head?_dropWhile (mem : c ∈ (cs.dropWhile p).head?) : p c = false := by
  have first := List.head?_dropWhile_not p cs
  rw [mem] at first
  exact first

theorem dropWhile_eq_self (first : ∀ c ∈ cs.head?, p c = false) : cs.dropWhile p = cs := by
  cases cs with
  | nil => rfl
  | cons c cs => exact List.dropWhile_cons_of_neg (Bool.eq_false_iff.mp (first c rfl))

theorem dropEndWhile_eq_rdropWhile (p : Char → Bool) (cs : List Char) :
    dropEndWhile p cs = cs.rdropWhile p := rfl

theorem exists_dropEndWhile_append (p : Char → Bool) (cs : List Char) :
    ∃ ends, (∀ c ∈ ends, p c = true) ∧ cs = dropEndWhile p cs ++ ends := by
  refine ⟨cs.rtakeWhile p, fun c mem => List.mem_rtakeWhile_imp mem, ?_⟩
  rw [dropEndWhile_eq_rdropWhile, List.rdropWhile_append_rtakeWhile]

theorem dropEndWhile_eq_self_iff :
    dropEndWhile p cs = cs ↔ ∀ c ∈ cs.getLast?, p c = false := by
  rw [dropEndWhile_eq_rdropWhile, List.rdropWhile_eq_self_iff]
  constructor
  · intro last c mem
    obtain ⟨some, rfl⟩ := List.mem_getLast?_eq_getLast mem
    exact Bool.eq_false_iff.mpr (last some)
  · intro last some
    exact Bool.eq_false_iff.mp (last _ (List.getLast?_eq_some_getLast some))

theorem getLast?_dropEndWhile (mem : c ∈ (dropEndWhile p cs).getLast?) : p c = false :=
  dropEndWhile_eq_self_iff.mp (List.rdropWhile_idempotent p cs) c mem

theorem dropEndWhile_append (all : ∀ c ∈ ends, p c = true) (cs : List Char) :
    dropEndWhile p (cs ++ ends) = dropEndWhile p cs := by
  rw [dropEndWhile, List.reverse_append, List.dropWhile_append_of_pos (by simpa using all),
    dropEndWhile]

theorem dropEndWhile_prefix (p : Char → Bool) (cs : List Char) : dropEndWhile p cs <+: cs :=
  List.rdropWhile_prefix p cs

/-- A text and the slashes at its end. -/
theorem exists_stripSlashes (s : String) :
    ∃ slashes, s.toList = (stripSlashes s).toList ++ List.replicate slashes '/' ∧
      (stripSlashes s).toList.getLast? ≠ some '/' := by
  obtain ⟨ends, all, whole⟩ := exists_dropEndWhile_append (· = '/') s.toList
  have same : ends = List.replicate ends.length '/' := by
    rw [List.eq_replicate_iff]
    exact ⟨rfl, fun c mem => by simpa using all c mem⟩
  refine ⟨ends.length, ?_, ?_⟩
  · rw [stripSlashes, String.toList_ofList, ← same]
    exact whole
  · rw [stripSlashes, String.toList_ofList]
    intro last
    have other := getLast?_dropEndWhile (p := (· = '/')) last
    simp at other

end AmbientTypes.Text
