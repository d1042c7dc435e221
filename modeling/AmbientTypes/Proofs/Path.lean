import AmbientTypes.Path
import AmbientTypes.Proofs.Text.Affix
import AmbientTypes.Proofs.Text.Blank
import Mathlib.Data.List.Infix

namespace AmbientTypes.Path

/-- A segment that leads one directory further down. -/
structure IsOrdinary (segment : List Char) : Prop where
  full : segment ≠ []
  not_here : segment ≠ ['.']
  not_up : segment ≠ ['.', '.']
  whole : '/' ∉ segment

/-- A text that begins with an ordinary segment begins with no slash. -/
theorem IsOrdinary.head_ne {segment : List Char} (ordinary : IsOrdinary segment)
    (rest : List Char) : ∀ c ∈ (segment ++ rest).head?, c ≠ '/' := by
  obtain ⟨a, segment, rfl⟩ := List.exists_cons_of_ne_nil ordinary.full
  have whole := ordinary.whole
  rintro c first rfl
  simp_all

variable {rooted : Bool} {done segments before after : List (List Char)}
  {segment last : List Char} {cs : List Char} {path : String}

theorem joinSegments_append (some : before ≠ []) (some' : after ≠ []) :
    joinSegments (before ++ after) = joinSegments before ++ '/' :: joinSegments after := by
  obtain ⟨a, after, rfl⟩ := List.exists_cons_of_ne_nil some'
  induction before with
  | nil => exact absurd rfl some
  | cons s before ih =>
    cases before with
    | nil => simp [joinSegments, List.intercalate_cons_cons]
    | cons t before =>
      have later := ih (List.cons_ne_nil t before)
      simp only [joinSegments, List.cons_append, List.intercalate_cons_cons] at later ⊢
      rw [later]
      simp

theorem joinSegments_splitAt (cs : List Char) : joinSegments (Text.splitAt '/' cs) = cs := by
  rw [Text.splitAt_eq_splitOn]
  exact List.intercalate_splitOn '/'

theorem splitAt_joinSegments (some : segments ≠ []) (whole : ∀ s ∈ segments, '/' ∉ s) :
    Text.splitAt '/' (joinSegments segments) = segments := by
  rw [Text.splitAt_eq_splitOn]
  exact List.splitOn_intercalate '/' whole some

@[simp] theorem joinSegments_singleton (segment : List Char) : joinSegments [segment] = segment := by
  simp [joinSegments]

theorem exists_joinSegments_cons (s : List Char) (segments : List (List Char)) :
    ∃ tail, joinSegments (s :: segments) = s ++ tail := by
  cases segments with
  | nil => exact ⟨[], by simp⟩
  | cons t later => exact ⟨_, by rw [joinSegments, List.intercalate_cons_cons, List.append_assoc]⟩

theorem joinSegments_ne_nil (some : segments ≠ []) (full : ∀ s ∈ segments, s ≠ []) :
    joinSegments segments ≠ [] := by
  obtain ⟨s, later, rfl⟩ := List.exists_cons_of_ne_nil some
  obtain ⟨tail, whole⟩ := exists_joinSegments_cons s later
  rw [whole]
  exact List.append_ne_nil_of_left_ne_nil (full s List.mem_cons_self) tail

theorem segment_cases (whole : '/' ∉ segment) :
    (segment = [] ∨ segment = ['.']) ∨ segment = ['.', '.'] ∨ IsOrdinary segment := by
  by_cases skipped : segment = [] ∨ segment = ['.']
  · exact .inl skipped
  by_cases up : segment = ['.', '.']
  · exact .inr (.inl up)
  · rw [not_or] at skipped
    exact .inr (.inr ⟨skipped.1, skipped.2, up, whole⟩)

theorem step_skip (skipped : segment = [] ∨ segment = ['.']) (rooted : Bool)
    (done : List (List Char)) : step rooted done segment = done := by
  rcases skipped with rfl | rfl <;> simp [step]

theorem step_up (ordinary : IsOrdinary last) (rooted : Bool) (done : List (List Char)) :
    step rooted (last :: done) ['.', '.'] = done := by
  simp [step, ordinary.not_up]

theorem step_ordinary (ordinary : IsOrdinary segment) (rooted : Bool) (done : List (List Char)) :
    step rooted done segment = segment :: done := by
  simp [step, ordinary.full, ordinary.not_here, ordinary.not_up]

theorem foldl_step_ordinary (ordinary : ∀ s ∈ segments, IsOrdinary s) (rooted : Bool)
    (done : List (List Char)) :
    segments.foldl (step rooted) done = segments.reverse ++ done := by
  induction segments generalizing done with
  | nil => rfl
  | cons s segments ih =>
    obtain ⟨first, later⟩ := List.forall_mem_cons.mp ordinary
    rw [List.foldl_cons, step_ordinary first, ih later]
    simp

/-- A step puts its segment on the others, or takes some off. -/
theorem step_suffix (rooted : Bool) (done : List (List Char)) (segment : List Char) :
    step rooted done segment <:+ segment :: done := by
  unfold step
  split
  · exact List.suffix_cons segment done
  split
  · exact List.suffix_rfl
  split
  · split
    · exact List.nil_suffix
    · exact List.suffix_rfl
  · split
    · exact List.suffix_rfl
    · exact (List.suffix_cons _ _).trans (List.suffix_cons _ _)

theorem mem_step (mem : last ∈ step rooted done segment) :
    last ∈ done ∨ last = segment ∧ segment ≠ [] := by
  by_cases empty : segment = []
  · rw [step_skip (.inl empty)] at mem
    exact .inl mem
  · rcases List.mem_cons.mp ((step_suffix rooted done segment).subset mem) with same | early
    · exact .inr ⟨same, empty⟩
    · exact .inl early

/-- What is left are segments of the path, and none is empty. -/
theorem mem_foldl_step (mem : segment ∈ segments.foldl (step rooted) done) :
    segment ∈ done ∨ segment ∈ segments ∧ segment ≠ [] := by
  induction segments generalizing done with
  | nil => exact .inl mem
  | cons s segments ih =>
    rcases ih mem with early | ⟨later, full⟩
    · rcases mem_step early with early | ⟨rfl, full⟩
      · exact .inl early
      · exact .inr ⟨List.mem_cons_self, full⟩
    · exact .inr ⟨List.mem_cons_of_mem s later, full⟩

theorem length_foldl_step_le (rooted : Bool) (segments done : List (List Char)) :
    (segments.foldl (step rooted) done).length ≤ done.length + segments.length := by
  induction segments generalizing done with
  | nil => exact Nat.le_refl _
  | cons s segments ih =>
    have one := (step_suffix rooted done s).length_le
    have more := ih (step rooted done s)
    rw [List.foldl_cons, List.length_cons]
    rw [List.length_cons] at one
    omega

/-- Where no segment is lost behind an ordinary one, all of them are ordinary. -/
theorem isOrdinary_of_length (ordinary : IsOrdinary last) (whole : ∀ s ∈ segments, '/' ∉ s)
    (kept : (segments.foldl (step rooted) (last :: done)).length =
      (last :: done).length + segments.length) : ∀ s ∈ segments, IsOrdinary s := by
  induction segments generalizing last done with
  | nil => exact fun _ mem => absurd mem List.not_mem_nil
  | cons s segments ih =>
    have most := length_foldl_step_le rooted segments (step rooted (last :: done) s)
    rw [List.foldl_cons] at kept
    rw [kept] at most
    simp only [List.length_cons] at most
    rcases segment_cases (whole s List.mem_cons_self) with skipped | rfl | first
    · rw [step_skip skipped, List.length_cons] at most
      omega
    · rw [step_up ordinary] at most
      omega
    · rw [step_ordinary first] at kept
      refine List.forall_mem_cons.mpr ⟨first, @ih (last :: done) s first ?_ ?_⟩
      · exact List.forall_mem_of_forall_mem_cons whole
      · rw [kept]
        simp only [List.length_cons]
        omega

theorem leadingSlashes_of_relative (relative : ∀ c ∈ cs.head?, c ≠ '/') : leadingSlashes cs = 0 := by
  unfold leadingSlashes
  split
  · exact absurd rfl (relative '/' rfl)
  · exact absurd rfl (relative '/' rfl)
  · exact absurd rfl (relative '/' rfl)
  · rfl

/-- The segments that are left of a path that does not begin with a slash. -/
theorem normalSegments_of_relative (relative : ∀ c ∈ cs.head?, c ≠ '/') :
    normalSegments cs = ((Text.splitAt '/' cs).foldl (step false) []).reverse := by
  rw [normalSegments, leadingSlashes_of_relative relative]
  rfl

theorem normalSegments_full (mem : segment ∈ normalSegments cs) :
    segment ≠ [] ∧ '/' ∉ segment := by
  rcases mem_foldl_step (List.mem_reverse.mp mem) with none | ⟨inside, full⟩
  · exact absurd none List.not_mem_nil
  · exact ⟨full, Text.not_mem_of_mem_splitAt inside⟩

/-- A path as it is normalised, if it does not begin with a slash and anything is left of it. -/
theorem toList_normalize (relative : ∀ c ∈ path.toList.head?, c ≠ '/')
    (some : normalSegments path.toList ≠ []) :
    (normalize path).toList = joinSegments (normalSegments path.toList) := by
  have full : joinSegments (normalSegments path.toList) ≠ [] :=
    joinSegments_ne_nil some fun s mem => (normalSegments_full mem).1
  rw [normalize, leadingSlashes_of_relative relative, List.replicate_zero, List.nil_append,
    if_neg (by simpa using full), String.toList_ofList]

theorem normalize_of_nil (relative : ∀ c ∈ path.toList.head?, c ≠ '/')
    (none : normalSegments path.toList = []) : normalize path = "." := by
  rw [normalize, leadingSlashes_of_relative relative, none]
  rfl

theorem splitAt_normalize (relative : ∀ c ∈ path.toList.head?, c ≠ '/')
    (some : normalSegments path.toList ≠ []) :
    Text.splitAt '/' (normalize path).toList = normalSegments path.toList := by
  rw [toList_normalize relative some]
  exact splitAt_joinSegments some fun s mem => (normalSegments_full mem).2

/-- All segments of a normal path below an ordinary one are ordinary. -/
theorem isOrdinary_of_normal (normal : normalize path = path) (ordinary : IsOrdinary segment)
    (below : path.toList = segment ++ '/' :: cs) : ∀ s ∈ Text.splitAt '/' cs, IsOrdinary s := by
  have relative : ∀ c ∈ path.toList.head?, c ≠ '/' := below ▸ ordinary.head_ne _
  have parts : Text.splitAt '/' path.toList = segment :: Text.splitAt '/' cs := by
    rw [below, Text.splitAt_append, Text.splitAt_of_not_mem ordinary.whole]
    rfl
  have left : normalSegments path.toList =
      ((Text.splitAt '/' cs).foldl (step false) [segment]).reverse := by
    rw [normalSegments_of_relative relative, parts, List.foldl_cons, step_ordinary ordinary]
  have some : normalSegments path.toList ≠ [] := by
    intro none
    have dot : path = "." := normal.symm.trans (normalize_of_nil relative none)
    have slash : '/' ∈ path.toList := by simp [below]
    rw [dot] at slash
    exact absurd slash (by decide)
  have kept := splitAt_normalize relative some
  rw [normal, parts, left] at kept
  refine @isOrdinary_of_length false [] _ segment ordinary
    (fun s mem => Text.not_mem_of_mem_splitAt mem) ?_
  have lengths := congrArg List.length kept
  simp only [List.length_cons, List.length_reverse] at lengths
  rw [← lengths, List.length_singleton, Nat.add_comm]

theorem head_joinSegments (some : segments ≠ []) (ordinary : ∀ s ∈ segments, IsOrdinary s)
    (rest : List Char) : ∀ c ∈ (joinSegments segments ++ rest).head?, c ≠ '/' := by
  obtain ⟨s, later, rfl⟩ := List.exists_cons_of_ne_nil some
  obtain ⟨tail, whole⟩ := exists_joinSegments_cons s later
  rw [whole, List.append_assoc]
  exact (ordinary s List.mem_cons_self).head_ne _

theorem getLast_joinSegments (ordinary : ∀ s ∈ segments, IsOrdinary s) :
    ∀ c ∈ (joinSegments segments).getLast?, c ≠ '/' := by
  rcases List.eq_nil_or_concat' segments with rfl | ⟨before, last, rfl⟩
  · simp [joinSegments]
  have last_ordinary : IsOrdinary last := ordinary last (by simp)
  have ends : ∃ front, joinSegments (before ++ [last]) = front ++ last := by
    by_cases none : before = []
    · exact ⟨[], by simp [none]⟩
    · exact ⟨joinSegments before ++ ['/'], by simp [joinSegments_append none]⟩
  obtain ⟨front, whole⟩ := ends
  intro c final slash
  rw [whole, List.getLast?_append_of_ne_nil _ last_ordinary.full] at final
  exact last_ordinary.whole (slash ▸ List.mem_of_getLast? final)

theorem directory_joinSegments (some : segments ≠ []) (ordinary : ∀ s ∈ segments, IsOrdinary s)
    (whole : '/' ∉ last) :
    directory (String.ofList (joinSegments (segments ++ [last]))) =
      String.ofList (joinSegments segments) := by
  have cut : (last.reverse ++ '/' :: (joinSegments segments).reverse).dropWhile (· ≠ '/') =
      '/' :: (joinSegments segments).reverse := by
    rw [List.dropWhile_append_of_pos, List.dropWhile_cons_of_neg (by simp)]
    intro c mem
    simpa using fun slash : c = '/' => whole (slash ▸ List.mem_reverse.mp mem)
  have upTo : upToSlash (joinSegments segments ++ '/' :: last) = joinSegments segments ++ ['/'] := by
    rw [upToSlash, List.reverse_append, List.reverse_cons, List.append_assoc, List.singleton_append,
      cut]
    simp
  have full : (joinSegments segments ++ ['/']).all (· = '/') = false := by
    have first := head_joinSegments some ordinary ['/']
    obtain ⟨c, rest, starts⟩ := List.exists_cons_of_ne_nil
      (List.append_ne_nil_of_right_ne_nil (joinSegments segments) (List.cons_ne_nil '/' []))
    rw [starts] at first ⊢
    simp [first c rfl]
  have kept : (joinSegments segments).reverse.dropWhile (· = '/') =
      (joinSegments segments).reverse := by
    have final := getLast_joinSegments ordinary
    rw [← List.head?_reverse] at final
    exact Text.dropWhile_eq_self fun c first => by simpa using final c first
  rw [directory, String.toList_ofList, joinSegments_append some (by simp), joinSegments_singleton,
    upTo, full, if_neg Bool.false_ne_true, List.reverse_append, List.reverse_singleton,
    List.singleton_append, List.dropWhile_cons_of_pos (by simp), kept, List.reverse_reverse]

/-- The directory of a file below a base: the base, and the segments in front of the file's name. -/
theorem exists_directory {rest : List Char}
    (ordinary : ∀ s ∈ Text.splitAt '/' rest, IsOrdinary s) :
    ∃ below, (∀ s ∈ below, IsOrdinary s) ∧ ∀ base, base ≠ [] → (∀ s ∈ base, IsOrdinary s) →
      directory (String.ofList (joinSegments base ++ '/' :: rest)) =
        String.ofList (joinSegments (base ++ below)) := by
  obtain none | ⟨below, file, split⟩ := List.eq_nil_or_concat' (Text.splitAt '/' rest)
  · exact absurd none (Text.splitAt_ne_nil '/' rest)
  rw [split] at ordinary
  have below_ordinary : ∀ s ∈ below, IsOrdinary s :=
    fun s mem => ordinary s (List.mem_append_left _ mem)
  refine ⟨below, below_ordinary, fun base some base_ordinary => ?_⟩
  rw [← joinSegments_splitAt rest, split, ← joinSegments_append some (by simp), ← List.append_assoc]
  apply directory_joinSegments (List.append_ne_nil_of_left_ne_nil some below)
  · exact List.forall_mem_append.mpr ⟨base_ordinary, below_ordinary⟩
  · exact (ordinary file (by simp)).whole

theorem toList_join (some : segments ≠ []) (ordinary : ∀ s ∈ segments, IsOrdinary s)
    (relative : Text.startsWith "/" path = false) :
    (join (String.ofList (joinSegments segments)) path).toList =
      joinSegments segments ++ '/' :: path.toList := by
  have full := joinSegments_ne_nil some fun s mem => (ordinary s mem).full
  have unclosed : Text.endsWith "/" (String.ofList (joinSegments segments)) = false := by
    rw [Bool.eq_false_iff, Ne, Text.endsWith_iff]
    rintro ⟨before, whole⟩
    have texts : joinSegments segments = before.toList ++ ['/'] := by
      rw [← String.toList_ofList (l := joinSegments segments), whole]
      simp
    exact getLast_joinSegments ordinary '/' (by simp [texts]) rfl
  rw [join, relative, unclosed]
  simp [full]

/-- A path is gone along from where its directory has led. -/
theorem normalSegments_join (some : segments ≠ []) (ordinary : ∀ s ∈ segments, IsOrdinary s)
    (relative : Text.startsWith "/" path = false) :
    normalSegments (join (String.ofList (joinSegments segments)) path).toList =
      ((Text.splitAt '/' path.toList).foldl (step false) segments.reverse).reverse := by
  rw [toList_join some ordinary relative, normalSegments_of_relative (head_joinSegments some ordinary _),
    Text.splitAt_append, splitAt_joinSegments some fun s mem => (ordinary s mem).whole,
    List.foldl_append, foldl_step_ordinary ordinary, List.append_nil]

/-- Where a path leads to from a directory: to the segments that are left, if there are any. -/
theorem normalize_join_cases (some : segments ≠ []) (ordinary : ∀ s ∈ segments, IsOrdinary s)
    (relative : Text.startsWith "/" path = false) :
    let left := (Text.splitAt '/' path.toList).foldl (step false) segments.reverse
    let place := normalize (join (String.ofList (joinSegments segments)) path)
    (left = [] ∧ place = ".") ∨ (left ≠ [] ∧ Text.splitAt '/' place.toList = left.reverse) := by
  intro left place
  have joined := normalSegments_join some ordinary relative
  have unrooted : ∀ c ∈ (join (String.ofList (joinSegments segments)) path).toList.head?, c ≠ '/' := by
    rw [toList_join some ordinary relative]
    exact head_joinSegments some ordinary _
  by_cases none : left = []
  · exact .inl ⟨none, normalize_of_nil unrooted (by rw [joined]; exact List.reverse_eq_nil_iff.mpr none)⟩
  · refine .inr ⟨none, (splitAt_normalize unrooted ?_).trans joined⟩
    rw [joined]
    exact fun empty => none (List.reverse_eq_nil_iff.mp empty)

/-- A path that from a directory leads nowhere out of a root, on none of its segments. -/
def StaysBelow (root directory path : String) : Prop :=
  ∀ before, before <+: Text.splitAt '/' path.toList →
    let place := normalize (join directory (String.ofList (joinSegments before)))
    place = root ∨ ∃ rest, place = root ++ "/" ++ rest

theorem stays_iff {root directory path : String} :
    (∀ before ∈ (Text.splitAt '/' path.toList).inits,
      let place := normalize (join directory (String.ofList (joinSegments before)))
      place = root ∨ (Text.afterStart? (root ++ "/") place).isSome = true) ↔
        StaysBelow root directory path := by
  simp only [StaysBelow, List.mem_inits, Option.isSome_iff_exists, Text.afterStart?_eq_some_iff]

instance (root directory path : String) : Decidable (StaysBelow root directory path) :=
  decidable_of_iff _ stays_iff

theorem joinSegments_begins (begins : before <+: Text.splitAt '/' cs) : joinSegments before <+: cs := by
  obtain ⟨after, whole⟩ := begins
  by_cases none : before = []
  · subst none
    exact List.nil_prefix
  by_cases all : after = []
  · subst all
    rw [List.append_nil] at whole
    rw [whole, joinSegments_splitAt]
  · refine ⟨'/' :: joinSegments after, ?_⟩
    rw [← joinSegments_append none all, whole, joinSegments_splitAt]

/-- Segments of a path lead to where its text leads. -/
theorem foldl_step_joinSegments (whole : ∀ s ∈ segments, '/' ∉ s) (rooted : Bool)
    (done : List (List Char)) :
    (Text.splitAt '/' (joinSegments segments)).foldl (step rooted) done =
      segments.foldl (step rooted) done := by
  by_cases none : segments = []
  · subst none
    exact step_skip (.inl rfl) rooted done
  · rw [splitAt_joinSegments none whole]

/-- The root is below all segments that are left on the way. -/
theorem StaysBelow.exists_append {root : String} {below : List (List Char)}
    (stays : StaysBelow root (String.ofList (joinSegments (root.toList :: below))) path)
    (ordinary : ∀ s ∈ root.toList :: below, IsOrdinary s)
    (relative : Text.startsWith "/" path = false) (begins : before <+: Text.splitAt '/' path.toList) :
    ∃ above, before.foldl (step false) (below.reverse ++ [root.toList]) = above ++ [root.toList] := by
  have root_ordinary : IsOrdinary root.toList := ordinary _ List.mem_cons_self
  have whole : ∀ s ∈ before, '/' ∉ s :=
    fun s mem => Text.not_mem_of_mem_splitAt (begins.subset mem)
  have relative' : Text.startsWith "/" (String.ofList (joinSegments before)) = false := by
    rw [Bool.eq_false_iff, Ne, Text.startsWith, List.isPrefixOf_iff_prefix]
    intro slash
    rw [String.toList_ofList (l := joinSegments before)] at slash
    have start := slash.trans (joinSegments_begins begins)
    rw [← List.isPrefixOf_iff_prefix, ← Text.startsWith, relative] at start
    cases start
  have first : ∃ later, Text.splitAt '/' (normalize (join
      (String.ofList (joinSegments (root.toList :: below)))
      (String.ofList (joinSegments before)))).toList = root.toList :: later := by
    rcases stays before begins with same | ⟨rest, same⟩
    · rw [same]
      exact ⟨[], Text.splitAt_of_not_mem root_ordinary.whole⟩
    · refine ⟨Text.splitAt '/' rest.toList, ?_⟩
      rw [same]
      simp [Text.splitAt_append, Text.splitAt_of_not_mem root_ordinary.whole]
  obtain ⟨later, first⟩ := first
  have ways := normalize_join_cases (List.cons_ne_nil _ below) ordinary relative'
  dsimp only at ways
  rw [String.toList_ofList, foldl_step_joinSegments whole, List.reverse_cons] at ways
  rcases ways with ⟨-, here⟩ | ⟨-, left⟩
  · rw [here] at first
    exact absurd (List.cons.inj first).1.symm root_ordinary.not_here
  · rw [first] at left
    refine ⟨later.reverse, List.reverse_injective ?_⟩
    rw [← left]
    simp

/-- Where a path does not go below a stack, what is under the stack is of no matter. -/
theorem exists_foldl_step {root : List Char} {top : List (List Char)} (root_ordinary : IsOrdinary root)
    (ordinary : ∀ s ∈ top, IsOrdinary s) (whole : ∀ s ∈ segments, '/' ∉ s)
    (stays : ∀ before, before <+: segments →
      ∃ above, before.foldl (step false) (top ++ [root]) = above ++ [root]) :
    ∃ above, ∀ base, segments.foldl (step false) (top ++ base) = above ++ base := by
  induction segments generalizing top with
  | nil => exact ⟨top, fun _ => rfl⟩
  | cons s segments ih =>
    have whole' : ∀ t ∈ segments, '/' ∉ t := List.forall_mem_of_forall_mem_cons whole
    have next : ∀ top', (∀ t ∈ top', IsOrdinary t) →
        (∀ base, (step false) (top ++ base) s = top' ++ base) →
        ∃ above, ∀ base, (s :: segments).foldl (step false) (top ++ base) = above ++ base := by
      intro top' ordinary' stepped
      simp only [List.foldl_cons, stepped]
      refine ih ordinary' whole' fun before begins => ?_
      have stays' := stays (s :: before) (List.cons_prefix_cons.mpr ⟨rfl, begins⟩)
      rwa [List.foldl_cons, stepped] at stays'
    rcases segment_cases (whole s List.mem_cons_self) with skipped | rfl | first
    · exact next top ordinary fun base => step_skip skipped false _
    · cases top with
      | nil =>
        obtain ⟨above, gone⟩ := stays [['.', '.']] (List.cons_prefix_cons.mpr ⟨rfl, List.nil_prefix⟩)
        have empty : step false [root] ['.', '.'] = [] := step_up root_ordinary false []
        exact absurd (empty.symm.trans gone).symm (by simp)
      | cons t top =>
        obtain ⟨t_ordinary, ordinary'⟩ := List.forall_mem_cons.mp ordinary
        exact next top ordinary' fun base => step_up t_ordinary false (top ++ base)
    · exact next (s :: top) (List.forall_mem_cons.mpr ⟨first, ordinary⟩) fun base =>
        step_ordinary first false _

/-- A path that stays below a root leads to the same segments below any base in the root's place. -/
theorem StaysBelow.exists_place {root : String} {below : List (List Char)}
    (stays : StaysBelow root (String.ofList (joinSegments (root.toList :: below))) path)
    (ordinary : ∀ s ∈ root.toList :: below, IsOrdinary s)
    (relative : Text.startsWith "/" path = false) :
    ∃ above : List (List Char), ∀ base, base ≠ [] → (∀ s ∈ base, IsOrdinary s) →
      (normalize (join (String.ofList (joinSegments (base ++ below))) path)).toList =
        joinSegments (base ++ above) := by
  obtain ⟨root_ordinary, below_ordinary⟩ := List.forall_mem_cons.mp ordinary
  have top_ordinary : ∀ s ∈ below.reverse, IsOrdinary s := by simpa using below_ordinary
  obtain ⟨above, leads⟩ := exists_foldl_step root_ordinary top_ordinary
    (fun s mem => Text.not_mem_of_mem_splitAt mem) fun before begins =>
      stays.exists_append ordinary relative begins
  refine ⟨above.reverse, fun base some base_ordinary => ?_⟩
  have all : ∀ s ∈ base ++ below, IsOrdinary s :=
    List.forall_mem_append.mpr ⟨base_ordinary, below_ordinary⟩
  have ways := normalize_join_cases (List.append_ne_nil_of_left_ne_nil some below) all relative
  dsimp only at ways
  rw [List.reverse_append, leads] at ways
  rcases ways with ⟨none, -⟩ | ⟨-, left⟩
  · exact absurd (List.reverse_eq_nil_iff.mp (List.append_eq_nil_iff.mp none).2) some
  · rw [← joinSegments_splitAt (normalize _).toList, left]
    simp

end AmbientTypes.Path
