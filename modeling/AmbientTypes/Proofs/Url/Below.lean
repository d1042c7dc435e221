import AmbientTypes.Proofs.Except
import AmbientTypes.Proofs.Text.Affix
import AmbientTypes.Proofs.Url.Percent
import AmbientTypes.Url.Basic
import Mathlib.Data.List.TakeDrop

namespace AmbientTypes.Url

/-- An address to which segments may be added. -/
structure IsBase (u : Url) : Prop where
  scheme : u.scheme ≠ []
  host : u.host ≠ []
  query : u.query = none
  fragment : u.fragment = none

/-- A text that stands for itself as one segment of a path. -/
structure IsSegment (segment : List Char) : Prop where
  chars : ∀ c ∈ segment, isPathChar c = true ∧ c ≠ '/'
  one : segment ≠ ['.']
  two : segment ≠ ['.', '.']

/-- The address whose path has a further segment. -/
def below (u : Url) (segment : List Char) : Url := { u with path := u.path ++ '/' :: segment }

variable {cs name rest more path segment : List Char} {parts : Parts} {u : Url}
  {mark : Char} {done : List (List Char)}

theorem isPathChar_slash : isPathChar '/' = true := by decide

theorem ne_marks_of_isPathChar {c : Char} (h : isPathChar c = true) : c ≠ '#' ∧ c ≠ '?' := by
  constructor <;> rintro rfl <;> exact absurd h (by decide)

theorem not_isControl_of_isPathChar {c : Char} (h : isPathChar c = true) :
    isControl c = false := by
  simp only [isPathChar, isQueryChar, isPrintedAscii, Bool.and_eq_true, decide_eq_true_eq] at h
  obtain ⟨⟨⟨low, high⟩, -⟩, -⟩ := h
  simp only [isControl, Bool.or_eq_false_iff, decide_eq_false_iff_not]
  omega

theorem cutScheme_append (cut : cutScheme cs = (name, rest)) (some : name ≠ [])
    (more : List Char) : cutScheme (cs ++ '/' :: more) = (name, rest ++ '/' :: more) := by
  have slash : isSchemeChar '/' = false := by decide
  obtain ⟨taken, dropped⟩ := Text.takeWhile_append_cons slash cs more
  have empty : ([], cs) ≠ (name, rest) := fun same => some (Prod.mk.inj same).1.symm
  unfold cutScheme at cut ⊢
  rw [taken, dropped]
  cases scheme : cs.takeWhile isSchemeChar with
  | nil =>
    rw [scheme] at cut
    split at cut
    · exact absurd (Prod.mk.inj cut).1.symm some
    · exact absurd cut empty
  | cons c letters =>
    rw [scheme] at cut
    split at cut
    · next found =>
      rw [found]
      dsimp only at cut ⊢
      split at cut
      · next begins =>
        obtain ⟨rfl, rfl⟩ := Prod.mk.inj cut
        exact if_pos begins
      · exact absurd cut empty
    · exact absurd cut empty

theorem cutAuthority_append {authority : List Char} (cut : cutAuthority cs = (authority, rest))
    (some : authority ≠ []) (more : List Char) :
    cutAuthority (cs ++ '/' :: more) = (authority, rest ++ '/' :: more) := by
  have slash : (!endsAuthority '/') = false := by decide
  unfold cutAuthority at cut
  split at cut
  · next after =>
    obtain ⟨taken, dropped⟩ := Text.takeWhile_append_cons (p := (!endsAuthority ·)) slash after more
    rw [List.span_eq_takeWhile_dropWhile] at cut
    obtain ⟨rfl, rfl⟩ := Prod.mk.inj cut
    rw [List.cons_append, List.cons_append, cutAuthority, List.span_eq_takeWhile_dropWhile,
      taken, dropped]
  · exact absurd (Prod.mk.inj cut).1.symm some

theorem cut_append_of_none {before : List Char} (cut : Text.cut mark cs = (before, none))
    (fresh : mark ∉ more) : Text.cut mark (cs ++ more) = (before ++ more, none) := by
  rcases Text.cut_cases mark cs with ⟨absent, same⟩ | ⟨_, _, -, -, same⟩
  · obtain rfl := (Prod.mk.inj (same.symm.trans cut)).1
    refine Text.cut_of_not_mem ?_
    rw [List.mem_append, not_or]
    exact ⟨absent, fresh⟩
  · exact absurd (Prod.mk.inj (same.symm.trans cut)).2 (by simp)

/-- The parts of an address that goes on below another one. -/
theorem read_append (scheme : (Parts.read cs).scheme ≠ [])
    (authority : (Parts.read cs).authority ≠ []) (query : (Parts.read cs).query = none)
    (fragment : (Parts.read cs).fragment = none) (fresh : '#' ∉ more ∧ '?' ∉ more) :
    Parts.read (cs ++ '/' :: more) =
      { Parts.read cs with path := (Parts.read cs).path ++ '/' :: more } := by
  unfold Parts.read at scheme authority query fragment ⊢
  generalize first : cutScheme cs = cutFirst at scheme authority query fragment ⊢
  obtain ⟨name, rest⟩ := cutFirst
  dsimp only at scheme authority query fragment ⊢
  generalize second : cutAuthority rest = cutSecond at authority query fragment ⊢
  obtain ⟨place, rest'⟩ := cutSecond
  dsimp only at authority query fragment ⊢
  generalize third : Text.cut '#' rest' = cutThird at query fragment ⊢
  obtain ⟨before, after⟩ := cutThird
  dsimp only at query fragment ⊢
  subst fragment
  generalize fourth : Text.cut '?' before = cutFourth at query ⊢
  obtain ⟨path, after'⟩ := cutFourth
  dsimp only at query ⊢
  subst query
  have freshHash : '#' ∉ '/' :: more := by simp [fresh.1]
  have freshQuestion : '?' ∉ '/' :: more := by simp [fresh.2]
  rw [cutScheme_append first scheme]
  dsimp only
  rw [cutAuthority_append second authority]
  dsimp only
  rw [cut_append_of_none third freshHash]
  dsimp only
  rw [cut_append_of_none fourth freshQuestion]

/-- A path that is empty or begins at the root. -/
def IsRooted (path : List Char) : Prop := path = [] ∨ path.head? = some '/'

theorem IsRooted.append (rooted : IsRooted path) (more : List Char) :
    IsRooted (path ++ '/' :: more) := by
  right
  rcases rooted with rfl | root
  · rfl
  · cases path with
    | nil => cases root
    | cons c path => exact root

theorem step_of_isSegment (segment_ok : IsSegment segment) (done : List (List Char)) :
    step done segment = segment :: done := by
  rw [step, if_neg segment_ok.one, if_neg segment_ok.two]

theorem getLast?_step (root : done.getLast? = some []) (segment : List Char) :
    (step done segment).getLast? = some [] := by
  unfold step
  split
  · exact root
  · split
    · split
      · exact root
      · next other =>
        cases done with
        | nil => cases root
        | cons first done =>
          cases done with
          | nil =>
            obtain rfl : first = [] := by simpa using root
            exact absurd rfl other
          | cons second done => simpa using root
    · rw [List.getLast?_cons, root]
      rfl

theorem getLast?_foldl_step (segments : List (List Char)) (root : done.getLast? = some []) :
    (segments.foldl step done).getLast? = some [] := by
  induction segments generalizing done with
  | nil => exact root
  | cons segment segments ih => exact ih (getLast?_step root segment)

/-- No dots lead out of the root. -/
theorem foldl_step_ne_nil (rooted : IsRooted path) :
    (Text.splitAt '/' path).foldl step [] ≠ [] := by
  have first : ∃ segments, Text.splitAt '/' path = [] :: segments := by
    rcases rooted with rfl | root
    · exact ⟨[], rfl⟩
    · cases path with
      | nil => cases root
      | cons c path =>
        obtain rfl := Option.some.inj root
        exact ⟨Text.splitAt '/' path, by simp [Text.splitAt]⟩
  obtain ⟨segments, split⟩ := first
  have last : (segments.foldl step [[]]).getLast? = some [] := getLast?_foldl_step segments rfl
  intro none
  rw [split] at none
  have same : segments.foldl step [[]] = [] := none
  rw [same] at last
  cases last

theorem intercalate_concat (some : done ≠ []) (segment : List Char) :
    ['/'].intercalate (done ++ [segment]) = ['/'].intercalate done ++ '/' :: segment := by
  induction done with
  | nil => exact absurd rfl some
  | cons first done ih =>
    cases done with
    | nil => simp [List.intercalate_cons_cons]
    | cons second done =>
      have later := ih (by simp)
      rw [List.cons_append, List.cons_append, List.intercalate_cons_cons, ← List.cons_append, later,
        List.intercalate_cons_cons]
      simp

theorem removeDots_append (rooted : IsRooted path) (segment_ok : IsSegment segment) :
    removeDots (path ++ '/' :: segment) = removeDots path ++ '/' :: segment := by
  have plain : '/' ∉ segment := fun mem => (segment_ok.chars '/' mem).2 rfl
  have some : ((Text.splitAt '/' path).foldl step []).reverse ≠ [] := by
    simpa using foldl_step_ne_nil rooted
  rw [removeDots, Text.splitAt_append, Text.splitAt_of_not_mem plain, List.foldl_append,
    List.foldl_cons, List.foldl_nil, step_of_isSegment segment_ok, List.reverse_cons,
    intercalate_concat some]
  rfl

theorem encode_of_isSegment (segment_ok : IsSegment segment) :
    Percent.encode isPathChar ('/' :: segment) = '/' :: segment := by
  refine Percent.encode_of_forall ?_
  intro c mem
  rcases List.mem_cons.mp mem with rfl | mem
  · exact isPathChar_slash
  · exact (segment_ok.chars c mem).1

theorem checkPath_of_authority (hasScheme : Bool) :
    checkPath hasScheme true path = .ok () ↔ IsRooted path := by
  have rule : checkPath hasScheme true path =
      if path.isEmpty || path.head? = some '/' then .ok () else .error .pathWithoutSlash := rfl
  rw [rule, IsRooted]
  by_cases rooted : path = [] ∨ path.head? = some '/'
  · rw [if_pos (by simpa using rooted)]
    exact iff_of_true rfl rooted
  · rw [if_neg (by simpa using rooted)]
    exact iff_of_false (fun same => by cases same) rooted

/-- Whether an address names a place on the network. -/
def hasAuthority (u : Url) : Bool := !u.user.isEmpty || !u.host.isEmpty || u.portNumber.isSome

/-- How an address is read off the parts of its text. -/
structure IsReading (parts : Parts) (u : Url) : Prop where
  scheme : u.scheme = parts.scheme.map Char.toLower
  user : u.user = Percent.encode isUserChar (cutUser parts.authority).1
  host : Host.read (cutHost (cutUser parts.authority).2).1 = .ok u.host
  portNumber :
    readPortNumber parts.scheme (cutHost (cutUser parts.authority).2).2 = .ok u.portNumber
  checked : checkPath (!parts.scheme.isEmpty) u.hasAuthority parts.path = .ok ()
  path : u.path = Percent.encode isPathChar
    (if !parts.scheme.isEmpty || u.hasAuthority then removeDots parts.path else parts.path)
  query : u.query = parts.query.map (Percent.encode isQueryChar)
  fragment : u.fragment = parts.fragment.map (Percent.encode isFragmentChar)

theorem ofParts_eq_ok_iff : ofParts parts none = .ok u ↔ IsReading parts u := by
  constructor
  · intro read
    obtain ⟨host, hostRead, read⟩ := exists_of_bind read
    obtain ⟨number, numberRead, read⟩ := exists_of_bind read
    obtain ⟨⟨⟩, checked, read⟩ := exists_of_bind read
    obtain rfl := Except.ok.inj read
    exact ⟨rfl, rfl, mapError_eq_ok_iff.mp hostRead, numberRead, checked, rfl, rfl, rfl⟩
  · intro reading
    have named := mapError_eq_ok_iff (f := Fault.badHost).mpr reading.host
    have authority : (!(Percent.encode isUserChar (cutUser parts.authority).1).isEmpty ||
        !u.host.isEmpty || u.portNumber.isSome) = u.hasAuthority := by
      rw [hasAuthority, reading.user]
    unfold ofParts
    dsimp only [Option.getD_none]
    rw [named, reading.portNumber]
    dsimp only [bind, Except.bind]
    rw [authority, reading.checked]
    dsimp only
    rw [← reading.scheme, ← reading.user, ← reading.path, ← reading.query, ← reading.fragment]
    rfl

theorem IsReading.scheme_ne_nil (reading : IsReading parts u) (base : IsBase u) :
    parts.scheme ≠ [] := by
  intro none
  have same := reading.scheme
  rw [none] at same
  exact base.scheme same

theorem IsReading.authority_ne_nil (reading : IsReading parts u) (base : IsBase u) :
    parts.authority ≠ [] := by
  intro none
  have read := reading.host
  rw [none] at read
  have empty : Host.read (cutHost (cutUser []).2).1 = .ok [] := by decide
  exact base.host (Except.ok.inj (read.symm.trans empty))

theorem IsReading.append (reading : IsReading parts u) (base : IsBase u)
    (segment_ok : IsSegment segment) :
    IsReading { parts with path := parts.path ++ '/' :: segment } (below u segment) := by
  have placed : u.hasAuthority = true := by
    rw [hasAuthority]
    simp [base.host]
  have checked := reading.checked
  have path := reading.path
  rw [placed] at checked path
  have rooted := (checkPath_of_authority _).mp checked
  have placed' : (below u segment).hasAuthority = true := placed
  refine ⟨reading.scheme, reading.user, reading.host, reading.portNumber, ?_, ?_, reading.query,
    reading.fragment⟩
  · rw [placed']
    exact (checkPath_of_authority _).mpr (rooted.append segment)
  · rw [placed', Bool.or_true, if_pos rfl, removeDots_append rooted segment_ok,
      Percent.encode_append, encode_of_isSegment segment_ok]
    rw [Bool.or_true, if_pos rfl] at path
    rw [below, path]

theorem IsBase.below (base : IsBase u) (segment : List Char) : IsBase (below u segment) :=
  ⟨base.scheme, base.host, base.query, base.fragment⟩

theorem text_below (base : IsBase u) (segment : List Char) :
    (below u segment).text = u.text ++ "/" ++ String.ofList segment := by
  have authority : (below u segment).authority = u.authority := rfl
  have query : (below u segment).query = none := base.query
  have fragment : (below u segment).fragment = none := base.fragment
  unfold text
  rw [authority, query, fragment, base.query, base.fragment, ← String.toList_inj]
  simp [marked, below]

theorem parse_eq_ok_iff {s : String} : parse s = .ok u ↔
    s.toList.length ≤ maxLength ∧ s.toList.find? isControl = none ∧
      ofParts (Parts.read s.toList) none = .ok u := by
  unfold parse
  dsimp only
  by_cases long : maxLength < s.toList.length
  · rw [if_pos long]
    exact iff_of_false (fun same => by cases same) fun h => absurd h.1 (Nat.not_le.mpr long)
  · rw [if_neg long]
    cases s.toList.find? isControl with
    | some c => exact iff_of_false (fun same => by cases same) fun h => by cases h.2.1
    | none => exact ⟨fun read => ⟨Nat.not_lt.mp long, rfl, read⟩, fun h => h.2.2⟩

/-- What is read of an address with a further segment. -/
theorem parse_append {s : String} (read : parse s = .ok u) (base : IsBase u)
    (segment_ok : IsSegment segment)
    (short : (s ++ "/" ++ String.ofList segment).toList.length ≤ maxLength) :
    parse (s ++ "/" ++ String.ofList segment) = .ok (below u segment) := by
  have chars : (s ++ "/" ++ String.ofList segment).toList = s.toList ++ '/' :: segment := by
    simp
  obtain ⟨-, clean, whole⟩ := parse_eq_ok_iff.mp read
  have reading := ofParts_eq_ok_iff.mp whole
  have query : (Parts.read s.toList).query = none := by
    simpa [base.query] using reading.query.symm
  have fragment : (Parts.read s.toList).fragment = none := by
    simpa [base.fragment] using reading.fragment.symm
  have fresh : '#' ∉ segment ∧ '?' ∉ segment :=
    ⟨fun mem => (ne_marks_of_isPathChar (segment_ok.chars _ mem).1).1 rfl,
      fun mem => (ne_marks_of_isPathChar (segment_ok.chars _ mem).1).2 rfl⟩
  rw [parse_eq_ok_iff]
  refine ⟨short, ?_, ?_⟩
  · rw [chars, List.find?_append, clean, Option.none_or, List.find?_eq_none]
    intro c mem
    rw [Bool.not_eq_true]
    rcases List.mem_cons.mp mem with rfl | mem
    · exact not_isControl_of_isPathChar isPathChar_slash
    · exact not_isControl_of_isPathChar (segment_ok.chars c mem).1
  · rw [chars, read_append (reading.scheme_ne_nil base) (reading.authority_ne_nil base) query
      fragment fresh, ofParts_eq_ok_iff]
    exact reading.append base segment_ok

end AmbientTypes.Url
