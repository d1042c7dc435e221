import AmbientTypes.Text.Ranges

namespace AmbientTypes.Text

def blankRanges : List (Nat × Nat) := [
  (133, 133), (160, 160), (5760, 5760), (8192, 8202), (8232, 8233), (8239, 8239), (8287, 8287),
  (12288, 12288)]

def isBlank (c : Char) : Bool :=
  if c.val < 128 then (9 ≤ c.val && c.val ≤ 13) || (28 ≤ c.val && c.val ≤ 32)
  else inRanges blankRanges c

/-- The information separators, which are no white space. -/
def isSeparator (c : Char) : Bool := 28 ≤ c.val && c.val ≤ 31

def isWhite (c : Char) : Bool := isBlank c && !isSeparator c

def dropEndWhile (drop : Char → Bool) (cs : List Char) : List Char :=
  (cs.reverse.dropWhile drop).reverse

def trimWhile (drop : Char → Bool) (cs : List Char) : List Char :=
  dropEndWhile drop (cs.dropWhile drop)

def strip (s : String) : String := String.ofList (trimWhile isBlank s.toList)

def stripSlashes (s : String) : String := String.ofList (dropEndWhile (· = '/') s.toList)

end AmbientTypes.Text
