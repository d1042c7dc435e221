namespace AmbientTypes.Text

theorem eq_append_of_isPrefixOf? {α : Type} [BEq α] [LawfulBEq α] {l m rest : List α}
    (h : l.isPrefixOf? m = some rest) : m = l ++ rest := by
  induction l generalizing m with
  | nil => exact Option.some.inj h
  | cons a l ih =>
    cases m with
    | nil => exact nomatch (show none = some rest from h)
    | cons b m =>
      change (if a == b then l.isPrefixOf? m else none) = some rest at h
      split at h
      · next hab => simp [eq_of_beq hab, ih h]
      · simp at h

def afterStart? (start s : String) : Option String :=
  (start.toList.isPrefixOf? s.toList).map String.ofList

def beforeEnd? (ending s : String) : Option String :=
  (ending.toList.isSuffixOf? s.toList).map String.ofList

def startsWith (start s : String) : Bool := start.toList.isPrefixOf s.toList

def endsWith (ending s : String) : Bool := ending.toList.isSuffixOf s.toList

/-- What stands before the first mark, and what follows it where there is a mark. -/
def cut (mark : Char) : List Char → List Char × Option (List Char)
  | [] => ([], none)
  | c :: cs =>
    if c = mark then ([], some cs)
    else
      let (before, after) := cut mark cs
      (c :: before, after)

def splitAt (mark : Char) : List Char → List (List Char)
  | [] => [[]]
  | c :: cs =>
    if c = mark then [] :: splitAt mark cs
    else match splitAt mark cs with
      | [] => [[c]]
      | part :: parts => (c :: part) :: parts

end AmbientTypes.Text
