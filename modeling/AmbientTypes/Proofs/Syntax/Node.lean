import AmbientTypes.Syntax.Import

namespace AmbientTypes.Syntax.Node

theorem preorders_append (ns ms : List Node) :
    preorders (ns ++ ms) = preorders ns ++ preorders ms := by
  induction ns with
  | nil => rfl
  | cons n ns ih => rw [List.cons_append, preorders, preorders, ih, List.append_assoc]

theorem preorder_eq_cons (n : Node) : n.preorder = n :: preorders n.children := by
  cases n with
  | call callee types arguments =>
    rw [preorder, children, List.cons_append, preorders, preorders_append, List.append_assoc]
  | _ => rfl

/-- What is still to come is the visit of the trees on the stack, one after the other. -/
theorem walk_eq_preorders (stack : List Node) : walk stack = preorders stack := by
  fun_induction walk stack with
  | case1 => rfl
  | case2 n rest ih => rw [ih, preorders_append, preorders, preorder_eq_cons, List.cons_append]

/-- The literals of the modules that trees load, in the order of the text. -/
def loaded (ns : List Node) : List (List Part) := (preorders ns).filterMap specifier?

theorem loaded_append (ns ms : List Node) : loaded (ns ++ ms) = loaded ns ++ loaded ms := by
  rw [loaded, preorders_append, List.filterMap_append]
  rfl

theorem loaded_group (ns : List Node) : loaded [group ns] = loaded ns := by
  rw [loaded, preorders, preorders, List.append_nil, preorder, List.filterMap_cons]
  rfl

theorem specifiers_eq (root : Node) {names : List Text.Points}
    (read : (loaded [root]).mapM literalValue? = some names) :
    root.specifiers = .ok names.eraseDups := by
  rw [specifiers, walk_eq_preorders]
  rw [loaded] at read
  rw [read]

end AmbientTypes.Syntax.Node
