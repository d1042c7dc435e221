import AmbientTypes.Proofs.Syntax.Escape
import AmbientTypes.Proofs.Syntax.Node

namespace AmbientTypes.Syntax.Node

/-- The node at a place: a place is made of the numbers of the children on the way down to it. -/
def nodeAt? : Node → List Nat → Option Node
  | n, [] => some n
  | n, i :: place => n.children[i]?.bind (·.nodeAt? place)

/-- The same in trees beside each other, where the first number is that of the tree. -/
def nodeIn? (ns : List Node) : List Nat → Option Node
  | [] => none
  | i :: place => ns[i]?.bind (·.nodeAt? place)

/-- Nodes in a row are all those that can be looked up, each once, in the order of their places. -/
structure Enumerates (look : List Nat → Option Node) (places : List (List Nat))
    (nodes : List Node) : Prop where
  sorted : places.Pairwise (· < ·)
  mem_iff : ∀ place, place ∈ places ↔ (look place).isSome
  nodes_eq : places.map look = nodes.map some

/-- The name of the module that a node loads, if the name has a value. -/
def moduleName? (n : Node) : Option Text.Points := n.specifier?.bind literalValue?

/-- The name of the module that a node loads has an escape of too large a number. -/
def IsUnreadable (n : Node) : Prop :=
  ∃ parts, n.specifier? = some parts ∧ ∃ p ∈ parts, p.IsOversized

/-- The modules that are found in a tree, none if one of their names has no value. -/
def found (root : Node) : List Text.Points := root.specifiers.toOption.getD []

variable {n root : Node} {ns : List Node} {places later : List (List Nat)}

/-- The place in trees beside each other when another tree is put in front of them. -/
def shift : List Nat → List Nat
  | [] => []
  | i :: place => (i + 1) :: place

theorem exists_cons_of_nodeIn? {place : List Nat} (known : (nodeIn? ns place).isSome) :
    ∃ i rest, place = i :: rest := by
  cases place with
  | nil => cases known
  | cons i rest => exact ⟨i, rest, rfl⟩

theorem nodeIn?_shift (n : Node) (ns : List Node) (place : List Nat) :
    nodeIn? (n :: ns) (shift place) = nodeIn? ns place := by
  cases place <;> rfl

theorem shift_lt_shift {place place' : List Nat} (full : (nodeIn? ns place).isSome)
    (lt : place < place') : shift place < shift place' := by
  obtain ⟨i, rest, rfl⟩ := exists_cons_of_nodeIn? full
  cases place' with
  | nil => exact absurd lt (List.not_lt_nil _)
  | cons i' rest' =>
    rw [shift, shift, List.cons_lt_cons_iff]
    exact (List.cons_lt_cons_iff.mp lt).imp Nat.succ_lt_succ (And.imp_left (congrArg (· + 1)))

namespace Enumerates

theorem nil : Enumerates (nodeIn? []) [] [] where
  sorted := .nil
  mem_iff place := by cases place <;> simp [nodeIn?]
  nodes_eq := rfl

theorem cons (first : Enumerates n.nodeAt? places n.preorder)
    (rest : Enumerates (nodeIn? ns) later (preorders ns)) :
    Enumerates (nodeIn? (n :: ns)) (places.map (0 :: ·) ++ later.map shift)
      (preorders (n :: ns)) := by
  constructor
  · rw [List.pairwise_append, List.pairwise_map, List.pairwise_map]
    refine ⟨first.sorted.imp fun lt => List.cons_lt_cons_iff.mpr (.inr ⟨rfl, lt⟩), ?_, ?_⟩
    · exact rest.sorted.imp_of_mem fun mem _ lt => shift_lt_shift ((rest.mem_iff _).mp mem) lt
    · intro place mem place' mem'
      obtain ⟨tail, -, rfl⟩ := List.mem_map.mp mem
      obtain ⟨inner, known, rfl⟩ := List.mem_map.mp mem'
      obtain ⟨i, tail', rfl⟩ := exists_cons_of_nodeIn? ((rest.mem_iff inner).mp known)
      exact List.cons_lt_cons_iff.mpr (.inl (Nat.succ_pos i))
  · intro place
    rw [List.mem_append, List.mem_map, List.mem_map]
    constructor
    · intro h
      rcases h with ⟨tail, mem, rfl⟩ | ⟨inner, mem, rfl⟩
      · exact (first.mem_iff tail).mp mem
      · rw [nodeIn?_shift]
        exact (rest.mem_iff inner).mp mem
    · intro some
      obtain ⟨i, tail, rfl⟩ := exists_cons_of_nodeIn? some
      cases i with
      | zero => exact .inl ⟨tail, (first.mem_iff tail).mpr some, rfl⟩
      | succ i => exact .inr ⟨i :: tail, (rest.mem_iff (i :: tail)).mpr some, rfl⟩
  · have here : (places.map (0 :: ·)).map (nodeIn? (n :: ns)) = n.preorder.map some := by
      rw [← first.nodes_eq, List.map_map]
      rfl
    have there : (later.map shift).map (nodeIn? (n :: ns)) = (preorders ns).map some := by
      rw [← rest.nodes_eq, List.map_map]
      exact List.map_congr_left fun place _ => nodeIn?_shift n ns place
    rw [List.map_append, here, there, preorders, List.map_append]

/-- A node stands in front of what it holds. -/
theorem ofChildren (inner : Enumerates (nodeIn? n.children) later (preorders n.children)) :
    Enumerates n.nodeAt? ([] :: later) n.preorder := by
  constructor
  · rw [List.pairwise_cons]
    refine ⟨fun place mem => ?_, inner.sorted⟩
    obtain ⟨i, tail, rfl⟩ := exists_cons_of_nodeIn? ((inner.mem_iff place).mp mem)
    exact List.nil_lt_cons i tail
  · intro place
    have known := inner.mem_iff place
    cases place with
    | nil => simp [nodeAt?]
    | cons i tail => simpa [nodeAt?, nodeIn?] using known
  · have same : later.map n.nodeAt? = later.map (nodeIn? n.children) := by
      apply List.map_congr_left
      intro place mem
      obtain ⟨i, tail, rfl⟩ := exists_cons_of_nodeIn? ((inner.mem_iff place).mp mem)
      rfl
    rw [preorder_eq_cons, List.map_cons, List.map_cons, same, inner.nodes_eq]
    rfl

end Enumerates

theorem size_le_sizes (mem : n ∈ ns) : n.size ≤ sizes ns := by
  induction ns with
  | nil => cases mem
  | cons m ns ih =>
    rw [sizes]
    rcases List.mem_cons.mp mem with rfl | mem
    · omega
    · exact Nat.le_trans (ih mem) (Nat.le_add_left _ _)

theorem exists_places_of_forall
    (each : ∀ n ∈ ns, ∃ places, Enumerates n.nodeAt? places n.preorder) :
    ∃ places, Enumerates (nodeIn? ns) places (preorders ns) := by
  induction ns with
  | nil => exact ⟨[], .nil⟩
  | cons n ns ih =>
    obtain ⟨places, first⟩ := each n List.mem_cons_self
    obtain ⟨later, rest⟩ := ih fun n mem => each n (List.mem_cons_of_mem _ mem)
    exact ⟨_, first.cons rest⟩

theorem exists_places (n : Node) : ∃ places, Enumerates n.nodeAt? places n.preorder := by
  -- on the size of the tree: all children are smaller
  induction size : n.size using Nat.strong_induction_on generalizing n with
  | _ k ih =>
    obtain ⟨later, inner⟩ : ∃ places, Enumerates (nodeIn? n.children) places
        (preorders n.children) := by
      apply exists_places_of_forall
      intro m mem
      have smaller := Nat.lt_of_le_of_lt (size_le_sizes mem) (sizes_children n)
      exact ih m.size (size ▸ smaller) m rfl
    exact ⟨_, inner.ofChildren⟩

theorem preorders_eq_flatMap (ns : List Node) : preorders ns = ns.flatMap preorder := by
  induction ns with
  | nil => rfl
  | cons n ns ih => rw [preorders, ih, List.flatMap_cons]

theorem walk_singleton (root : Node) : walk [root] = root.preorder := by
  rw [walk_eq_preorders, preorders, preorders, List.append_nil]

theorem moduleName?_eq_none_iff :
    n.moduleName? = none ↔ n.specifier? = none ∨ n.IsUnreadable := by
  unfold moduleName? IsUnreadable
  cases n.specifier? with
  | none => simp
  | some parts => simp [literalValue?_eq_none_iff]

theorem mapM_literalValue?_eq_none_iff :
    (((walk [root]).filterMap specifier?).mapM literalValue? = none) ↔
      ∃ n ∈ root.preorder, n.IsUnreadable := by
  rw [mapM_eq_none_iff, walk_singleton]
  simp only [List.mem_filterMap, literalValue?_eq_none_iff]
  constructor
  · intro h
    obtain ⟨parts, ⟨n, mem, loads⟩, large⟩ := h
    exact ⟨n, mem, parts, loads, large⟩
  · intro h
    obtain ⟨n, mem, parts, loads, large⟩ := h
    exact ⟨parts, ⟨n, mem, loads⟩, large⟩

theorem specifiers_of_readable (readable : ∀ n ∈ root.preorder, ¬ n.IsUnreadable) :
    root.specifiers = .ok (root.preorder.filterMap moduleName?).eraseDups := by
  have each : ∀ parts ∈ (walk [root]).filterMap specifier?, literalValue? parts ≠ none := by
    intro parts mem none
    have valueless := mapM_eq_none_iff.mpr ⟨parts, mem, none⟩
    obtain ⟨n, mem', large⟩ := mapM_literalValue?_eq_none_iff.mp valueless
    exact readable n mem' large
  rw [specifiers, mapM_eq_some_filterMap each, List.filterMap_filterMap, walk_singleton]
  rfl

theorem specifiers_of_unreadable (unreadable : ∃ n ∈ root.preorder, n.IsUnreadable) :
    root.specifiers = .error ⟨⟩ := by
  rw [specifiers, mapM_literalValue?_eq_none_iff.mpr unreadable]

/-- In a tree without escapes of too large numbers, the modules that are found are those of the
recursive visit of its nodes, each where it comes first. The walk passes the same nodes in the same
order, and these are all nodes of the tree, each once, in the order of their places. -/
theorem walk_finds_modules_in_order (root : Node)
    (readable : ∀ n ∈ root.preorder, ¬ n.IsUnreadable) :
    (∀ n : Node, n.preorder = n :: n.children.flatMap preorder) ∧
    root.specifiers = .ok (root.preorder.filterMap moduleName?).eraseDups ∧
    walk [root] = root.preorder ∧
    ∃ places, Enumerates root.nodeAt? places (walk [root]) := by
  refine ⟨fun n => ?_, specifiers_of_readable readable, walk_singleton root, ?_⟩
  · rw [preorder_eq_cons, preorders_eq_flatMap]
  · rw [walk_singleton]
    exact exists_places root

/-- Modules that are loaded inside of the loading of another one, and two that differ only in the
way in which halves of a character are put. -/
def nested : Node :=
  .group [
    .call .importWord [] [.literal [.fragment ['a']],
      .call (.name "require") [] [.literal [.escape ['x', '6', '2']]]],
    .exportFrom [.fragment ['a']] [],
    .importFrom [.escape ['u', 'D', '8', '3', 'D'], .escape ['u', 'D', 'E', '0', '0']] [],
    .importFrom [.fragment ['😀']] []]

theorem walk_finds_nested_modules :
    (∀ n ∈ nested.preorder, ¬ n.IsUnreadable) ∧
      nested.specifiers =
        .ok [Text.points "a", Text.points "b", [0xD83D, 0xDE00], Text.points "😀"] ∧
      ∃ places, Enumerates nested.nodeAt? places (walk [nested]) := by
  have readable : ∀ n ∈ nested.preorder, ¬ n.IsUnreadable := by
    intro n mem large
    have valued : ((walk [nested]).filterMap specifier?).mapM literalValue? ≠ none := by
      decide +kernel
    exact valued (mapM_literalValue?_eq_none_iff.mpr ⟨n, mem, large⟩)
  obtain ⟨-, found, -, visited⟩ := walk_finds_modules_in_order nested readable
  have names : (nested.preorder.filterMap moduleName?).eraseDups =
      [Text.points "a", Text.points "b", [0xD83D, 0xDE00], Text.points "😀"] := by
    decide +kernel
  rw [names] at found
  exact ⟨readable, found, visited⟩

/-- Every name of a module has a value but for escapes of too large numbers. The modules of all
names with a value are found exactly if there is no such escape in a name, or no name with a
value. -/
theorem modules_are_found_iff (root : Node) :
    (∀ n ∈ root.preorder, n.moduleName? = none ↔ n.specifier? = none ∨ n.IsUnreadable) ∧
    ((∀ n ∈ root.preorder, ∀ name, n.moduleName? = some name → name ∈ root.found) ↔
      (∀ n ∈ root.preorder, ¬ n.IsUnreadable) ∨ ∀ n ∈ root.preorder, n.moduleName? = none) := by
  refine ⟨fun n _ => moduleName?_eq_none_iff, ?_⟩
  by_cases unreadable : ∃ n ∈ root.preorder, n.IsUnreadable
  · have lost : root.found = [] := by
      rw [found, specifiers_of_unreadable unreadable]
      rfl
    rw [lost]
    constructor
    · intro all
      refine .inr fun n mem => ?_
      rw [Option.eq_none_iff_forall_ne_some]
      exact fun name loads => absurd (all n mem name loads) (List.not_mem_nil)
    · intro h n mem name loads
      rcases h with readable | none
      · obtain ⟨m, mem', large⟩ := unreadable
        exact absurd large (readable m mem')
      · rw [none n mem] at loads
        cases loads
  · have readable : ∀ n ∈ root.preorder, ¬ n.IsUnreadable :=
      fun n mem large => unreadable ⟨n, mem, large⟩
    refine ⟨fun _ => .inl readable, fun _ n mem name loads => ?_⟩
    rw [found, specifiers_of_readable readable]
    exact List.mem_eraseDups.mpr (List.mem_filterMap.mpr ⟨n, mem, loads⟩)

/-- One large escape hides the other import. -/
theorem large_escape_hides_modules :
    let root := outline "import \"\\u\x7b80000000\x7d\";\nimport \"react\";".toList
    (∃ n ∈ root.preorder, n.moduleName? = some (Text.points "react")) ∧ root.found = [] := by
  decide +kernel

end AmbientTypes.Syntax.Node
