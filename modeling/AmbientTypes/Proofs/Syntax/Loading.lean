import AmbientTypes.Proofs.Syntax.Literal
import AmbientTypes.Proofs.Syntax.Node

namespace AmbientTypes.Syntax

/-- The forms of statements that load a module. -/
inductive LoadForm where
  | bare
  | imported
  | exported
  | assigned
  | required
  | dynamic

namespace LoadForm

/-- What stands in front of the literal. -/
def before : LoadForm → List Char
  | bare => "import ".toList
  | imported => "import x from ".toList
  | exported => "export * from ".toList
  | assigned => "import x = require(".toList
  | required => "require(".toList
  | dynamic => "import(".toList

/-- What stands between the literal and the semicolon. -/
def after : LoadForm → List Char
  | bare | imported | exported => []
  | assigned | required | dynamic => [')']

/-- What a statement is read as. -/
def node (parts : List Part) : LoadForm → Node
  | bare | imported | assigned => .importFrom parts []
  | exported => .exportFrom parts []
  | required => .call (.name "require") [] [.literal parts]
  | dynamic => .call .importWord [] [.literal parts]

end LoadForm

/-- A statement that loads a module. -/
structure Load where
  form : LoadForm
  quote : Quote
  letters : List Letter
  full : letters ≠ []

namespace Load

def text (l : Load) : List Char :=
  l.form.before ++ (l.quote.around l.letters ++ (l.form.after ++ [';']))

/-- The name of the module. -/
def module (l : Load) : String := String.ofList (l.letters.map Letter.char)

def node (l : Load) : Node := l.form.node (Letter.parts l.letters)

/-- The statements, line by line. -/
def source (loads : List Load) : List Char := ['\n'].intercalate (loads.map text)

end Load

variable {read : Goal → Reader} {n : Node} {cs rest : List Char}

theorem eraseDups_map {α β : Type} [BEq α] [LawfulBEq α] [BEq β] [LawfulBEq β] {f : α → β}
    (injective : Function.Injective f) : (l : List α) → (l.map f).eraseDups = l.eraseDups.map f
  | [] => rfl
  | a :: l => by
    have kept : (fun b => !b == f a) ∘ f = fun b => !b == a := by
      funext b
      rw [Function.comp_apply, Bool.eq_iff_iff]
      simp [injective.eq_iff]
    have rest := eraseDups_map injective (l.filter fun b => !b == a)
    rw [List.map_cons, List.eraseDups_cons, List.eraseDups_cons, List.filter_map, kept, rest,
      List.map_cons]
  termination_by l => l.length
  decreasing_by exact Nat.lt_succ_of_le (List.length_filter_le _ _)

theorem readGoal_succ (d : Nat) (goal : Goal) (cs : List Char) :
    readGoal (d + 1) goal cs = rule (readGoal d) goal cs := rfl

/-- An item in front of items that are known. -/
theorem items_cons {close c : Char} {tail after : List Char} {ns : List Node}
    (start : gap cs = ⟨false, 0, c :: tail⟩) (apart : c ∉ [close, ',', ';'])
    (item : read .item (c :: tail) = some (n, rest))
    (later : read (.items close) rest = some (.group ns, after)) :
    Expression.items read close cs = some (.group (n :: ns), after) := by
  simp only [List.mem_cons, List.not_mem_nil, or_false, not_or] at apart
  unfold Expression.items
  rw [start]
  dsimp only
  rw [if_neg apart.1, item]
  simp [apart, optional, later, Node.children]

theorem primary_literal {parts : List Part} (literal : literal? cs = some (parts, rest)) :
    Expression.primary read cs = some (.literal parts, rest) := by
  unfold Expression.primary
  -- The other marks that a primary expression may start with are no quotes.
  split
  · cases literal
  · cases literal
  · cases literal
  · cases literal
  · cases literal
  · cases literal
  · rw [literal]

section Argument

variable (d : Nat) (q : Quote) (ls : List Letter) (rest : List Char)

theorem readGoal_primary : readGoal (d + 1) .primary (q.around ls ++ rest) =
    some (.literal (Letter.parts ls), rest) := by
  have literal := Letter.literal?_around q ls rest
  rw [readGoal_succ, rule]
  exact primary_literal literal

theorem readGoal_operand : readGoal (d + 2) .operand (q.around ls ++ ')' :: rest) =
    some (.literal (Letter.parts ls), ')' :: rest) := by
  have start : readGoal (d + 2) .operand (q.around ls ++ ')' :: rest) =
      readGoal (d + 1) .primary (q.around ls ++ ')' :: rest) >>=
        fun r => readGoal (d + 1) (.suffixes true r.1) r.2 := by
    cases q <;> rfl
  rw [start, readGoal_primary]
  rfl

theorem readGoal_expression : readGoal (d + 3) .expression (q.around ls ++ ')' :: rest) =
    some (.literal (Letter.parts ls), ')' :: rest) := by
  rw [readGoal_succ, rule, Expression.expression, readGoal_operand]
  rfl

theorem readGoal_item : readGoal (d + 4) .item (q.around ls ++ ')' :: rest) =
    some (.literal (Letter.parts ls), ')' :: rest) := by
  rw [readGoal_succ, rule, Expression.item, readGoal_expression]
  rfl

theorem readGoal_items : readGoal (d + 5) (.items ')') (q.around ls ++ ')' :: rest) =
    some (.group [.literal (Letter.parts ls)], rest) := by
  have start : gap (q.around ls ++ ')' :: rest) =
      ⟨false, 0, q.char :: (ls.flatMap Letter.text ++ [q.char] ++ ')' :: rest)⟩ := by
    cases q <;> rfl
  have apart : q.char ∉ [')', ',', ';'] := by cases q <;> decide
  have item := readGoal_item d q ls rest
  have later : readGoal (d + 4) (.items ')') (')' :: rest) = some (.group [], rest) := rfl
  rw [readGoal_succ, rule]
  rw [Quote.around, List.cons_append] at item
  exact items_cons start apart item later

/-- A call with a literal as its only argument, up to the semicolon behind it. -/
theorem readGoal_suffixes : readGoal (d + 6) (.suffixes true n)
    ('(' :: (q.around ls ++ ')' :: ';' :: rest)) =
      some (.call n [] [.literal (Letter.parts ls)], ';' :: rest) := by
  change Expression.call (readGoal (d + 5)) n [] _ = _
  rw [Expression.call, readGoal_items]
  rfl

end Argument

theorem readGoal_sequence (d : Nat)
    (operand : readGoal (d + 7) .operand cs = some (n, ';' :: rest)) :
    readGoal (d + 9) .sequence cs = some (n, ';' :: rest) := by
  have expression : readGoal (d + 8) .expression cs = some (n, ';' :: rest) := by
    rw [readGoal_succ, rule, Expression.expression, operand]
    rfl
  rw [readGoal_succ, rule, Expression.sequence, expression]
  rfl

/-- A statement is what its first word begins, if it begins something. -/
theorem statement_of_keyword {word : String} {found : Node × List Char}
    (start : word? cs = some (word, rest))
    (begun : Statement.keyword read word rest = some found) :
    Statement.statement read cs = some found := by
  unfold Statement.statement
  split
  · cases start
  · cases start
  · cases start
  · rw [start]
    dsimp only
    rw [begun]

theorem clause_around (exporting : Bool) (q : Quote) (ls : List Letter) (rest : List Char) :
    Statement.clause read exporting false (' ' :: (q.around ls ++ ';' :: rest)) =
      some (if exporting then .exportFrom (Letter.parts ls) []
        else .importFrom (Letter.parts ls) [], ';' :: rest) := by
  have literal := Letter.literal?_around q ls (';' :: rest)
  have start : skip (' ' :: (q.around ls ++ ';' :: rest)) = q.around ls ++ ';' :: rest := by
    cases q <;> rfl
  rw [Statement.clause, start]
  dsimp only
  rw [literal]
  rfl

/-- A clause up to the literal behind the word in front of it. -/
theorem readGoal_from (d : Nat) (exporting : Bool) (q : Quote) (ls : List Letter)
    (rest : List Char) :
    readGoal (d + 2) (.clause exporting false) (" from ".toList ++ (q.around ls ++ ';' :: rest)) =
      some (if exporting then .exportFrom (Letter.parts ls) []
        else .importFrom (Letter.parts ls) [], ';' :: rest) := by
  have word : ∀ read cs, Statement.clause read exporting false (" from ".toList ++ cs) =
      read (.clause exporting false) (' ' :: cs) := fun _ _ => rfl
  rw [readGoal_succ, rule, word]
  exact clause_around exporting q ls rest

theorem importAlias_around (q : Quote) (ls : List Letter) (rest : List Char) :
    Statement.importAlias (" require(".toList ++ (q.around ls ++ ')' :: ';' :: rest)) =
      some (.importFrom (Letter.parts ls) [], ';' :: rest) := by
  have literal := Letter.literal?_around q ls (')' :: ';' :: rest)
  have start : skip (q.around ls ++ ')' :: ';' :: rest) = q.around ls ++ ')' :: ';' :: rest := by
    cases q <;> rfl
  have word : ∀ cs, word? (skip (" require(".toList ++ cs)) = some ("require", '(' :: cs) :=
    fun _ => rfl
  have opening : ∀ cs, skip ('(' :: cs) = '(' :: cs := fun _ => rfl
  unfold Statement.importAlias
  rw [word]
  simp only [opening, start, literal]
  rfl

namespace Load

variable (d : Nat) (q : Quote) (ls : List Letter) (rest : List Char)

theorem readGoal_bare : readGoal (d + 10) .statement
    ("import ".toList ++ (q.around ls ++ ';' :: rest)) =
      some (.importFrom (Letter.parts ls) [], ';' :: rest) := by
  have start : word? ("import ".toList ++ (q.around ls ++ ';' :: rest)) =
      some ("import", ' ' :: (q.around ls ++ ';' :: rest)) := rfl
  have keyword : ∀ read, Statement.keyword read "import" (' ' :: (q.around ls ++ ';' :: rest)) =
      read (.clause false false) (' ' :: (q.around ls ++ ';' :: rest)) := by
    cases q <;> exact fun _ => rfl
  exact statement_of_keyword start ((keyword _).trans (clause_around false q ls rest))

theorem readGoal_imported : readGoal (d + 10) .statement
    ("import x from ".toList ++ (q.around ls ++ ';' :: rest)) =
      some (.importFrom (Letter.parts ls) [], ';' :: rest) := by
  have start : ∀ cs, word? ("import x from ".toList ++ cs) =
      some ("import", " x from ".toList ++ cs) := fun _ => rfl
  have keyword : ∀ read cs, Statement.keyword read "import" (" x from ".toList ++ cs) =
      read (.clause false false) (" x from ".toList ++ cs) := fun _ _ => rfl
  have word : ∀ read cs, Statement.clause read false false (" x from ".toList ++ cs) =
      read (.clause false false) (" from ".toList ++ cs) := fun _ _ => rfl
  apply statement_of_keyword (start _)
  rw [keyword, readGoal_succ, rule, word]
  exact readGoal_from (d + 6) false q ls rest

theorem readGoal_exported : readGoal (d + 10) .statement
    ("export * from ".toList ++ (q.around ls ++ ';' :: rest)) =
      some (.exportFrom (Letter.parts ls) [], ';' :: rest) := by
  have start : ∀ cs, word? ("export * from ".toList ++ cs) =
      some ("export", " * from ".toList ++ cs) := fun _ => rfl
  have keyword : ∀ read cs, Statement.keyword read "export" (" * from ".toList ++ cs) =
      read (.clause true false) (" * from ".toList ++ cs) := fun _ _ => rfl
  have star : ∀ read cs, Statement.clause read true false (" * from ".toList ++ cs) =
      read (.clause true false) (" from ".toList ++ cs) := fun _ _ => rfl
  apply statement_of_keyword (start _)
  rw [keyword, readGoal_succ, rule, star]
  exact readGoal_from (d + 6) true q ls rest

theorem readGoal_assigned : readGoal (d + 10) .statement
    ("import x = require(".toList ++ (q.around ls ++ ')' :: ';' :: rest)) =
      some (.importFrom (Letter.parts ls) [], ';' :: rest) := by
  have start : ∀ cs, word? ("import x = require(".toList ++ cs) =
      some ("import", " x = require(".toList ++ cs) := fun _ => rfl
  have keyword : ∀ read cs, Statement.keyword read "import" (" x = require(".toList ++ cs) =
      read (.clause false false) (" x = require(".toList ++ cs) := fun _ _ => rfl
  have word : ∀ read cs, Statement.clause read false false (" x = require(".toList ++ cs) =
      read (.clause false false) (" = require(".toList ++ cs) := fun _ _ => rfl
  have equals : ∀ read cs, Statement.clause read false false (" = require(".toList ++ cs) =
      Statement.importAlias (" require(".toList ++ cs) := fun _ _ => rfl
  apply statement_of_keyword (start _)
  rw [keyword, readGoal_succ, rule, word, readGoal_succ, rule, equals]
  exact importAlias_around q ls rest

/-- A word that begins no statement is called. -/
theorem readGoal_called (statement : ∀ read, Statement.statement read cs = read .sequence cs)
    (operand : ∀ read, Expression.operand read cs =
      read (.suffixes true n) ('(' :: (q.around ls ++ ')' :: ';' :: rest))) :
    readGoal (d + 10) .statement cs =
      some (.call n [] [.literal (Letter.parts ls)], ';' :: rest) := by
  rw [readGoal_succ, rule, statement]
  apply readGoal_sequence
  rw [readGoal_succ, rule, operand]
  exact readGoal_suffixes d q ls rest

theorem readGoal_statement (l : Load) (d : Nat) (rest : List Char) :
    readGoal (d + 10) .statement (l.text ++ rest) = some (l.node, ';' :: rest) := by
  obtain ⟨form, q, ls, full⟩ := l
  simp only [text, node, List.append_assoc]
  cases form with
  | bare => exact readGoal_bare d q ls rest
  | imported => exact readGoal_imported d q ls rest
  | exported => exact readGoal_exported d q ls rest
  | assigned => exact readGoal_assigned d q ls rest
  | required => exact readGoal_called d q ls rest (fun _ => rfl) (fun _ => rfl)
  | dynamic => exact readGoal_called d q ls rest (fun _ => rfl) (fun _ => rfl)

end Load

theorem scan_rest (lineBreak lineBreak' : Bool) (comments comments' : Nat) (part : GapPart)
    (cs : List Char) : (Gap.scan lineBreak comments part cs).rest =
      (Gap.scan lineBreak' comments' part cs).rest := by
  fun_induction Gap.scan lineBreak comments part cs generalizing lineBreak' comments' with
  | case1 => simp [Gap.scan]
  | case2 _ _ cs ih => exact ih _ _
  | case3 _ _ cs ih => exact ih _ _
  | case4 _ _ c cs line block blank ih => grind [Gap.scan]
  | case5 _ _ c cs line block other => grind [Gap.scan]
  | case6 _ _ c cs ends ih => grind [Gap.scan]
  | case7 _ _ c cs more ih => grind [Gap.scan]
  | case8 _ _ cs ih => exact ih _ _
  | case9 _ _ c cs more ih => grind [Gap.scan]

theorem skip_lineFeed (cs : List Char) : skip ('\n' :: cs) = skip cs :=
  scan_rest true false 0 0 .blank cs

theorem readGoal_lineFeed (d : Nat) (whole : Bool) (cs : List Char) :
    readGoal d (.statements whole) ('\n' :: cs) = readGoal d (.statements whole) cs := by
  cases d with
  | zero => rfl
  | succ d =>
    change Statement.statements _ whole _ = Statement.statements _ whole _
    rw [Statement.statements, Statement.statements, skip_lineFeed]

theorem statements_cons {whole : Bool} {c : Char} {tail : List Char}
    (start : skip cs = c :: tail) (inside : c ≠ '\x7d')
    (statement : read .statement (c :: tail) = some (n, rest)) :
    Statement.statements read whole cs = andThen n (read (.statements whole)) rest := by
  unfold Statement.statements
  rw [start]
  split
  · next same => cases same
  · next same => exact absurd (List.cons.inj same).1 inside
  · rw [statement]
    rfl

namespace Load

/-- A statement and its semicolon in front of statements that are known. -/
theorem readGoal_statements_cons (l : Load) (d : Nat) {ns : List Node} {after : List Char}
    (later : readGoal (d + 9) (.statements true) rest = some (.group ns, after)) :
    readGoal (d + 11) (.statements true) (l.text ++ rest) =
      some (.group (l.node :: .leaf :: ns), after) := by
  have statement := l.readGoal_statement d rest
  have semicolon : readGoal (d + 10) (.statements true) (';' :: rest) =
      some (.group (.leaf :: ns), after) := by
    have leaf : readGoal (d + 9) .statement (';' :: rest) = some (.leaf, rest) := rfl
    rw [readGoal_succ, rule, statements_cons rfl (by decide) leaf, andThen, later]
    rfl
  obtain ⟨c, tail, text, start, inside⟩ : ∃ c tail, l.text = c :: tail ∧
      (∀ rest, skip (c :: (tail ++ rest)) = c :: (tail ++ rest)) ∧ c ≠ '\x7d' := by
    obtain ⟨form, q, ls, full⟩ := l
    cases form <;> exact ⟨_, _, rfl, fun _ => rfl, by decide⟩
  rw [text, List.cons_append] at statement ⊢
  rw [readGoal_succ, rule, statements_cons (start rest) inside statement, andThen, semicolon]
  rfl

theorem source_singleton (l : Load) : source [l] = l.text ++ [] := by
  simp [source]

theorem source_cons_cons (l l' : Load) (loads : List Load) :
    source (l :: l' :: loads) = l.text ++ '\n' :: source (l' :: loads) := by
  simp [source]

theorem readGoal_source (loads : List Load) (d : Nat) :
    readGoal (d + 2 * loads.length + 9) (.statements true) (source loads) =
      some (.group (loads.flatMap fun l => [l.node, .leaf]), []) := by
  induction loads with
  | nil => rfl
  | cons l loads ih =>
    have depth : d + 2 * (l :: loads).length + 9 = d + 2 * loads.length + 11 := by
      rw [List.length_cons]
      omega
    rw [depth, List.flatMap_cons]
    cases loads with
    | nil =>
      rw [source_singleton]
      exact l.readGoal_statements_cons _ ih
    | cons l' loads =>
      rw [source_cons_cons]
      exact l.readGoal_statements_cons _ ((readGoal_lineFeed _ _ _).trans ih)

theorem length_le_source (loads : List Load) : loads.length ≤ (source loads).length := by
  induction loads with
  | nil => simp
  | cons l loads ih =>
    have semicolon : 1 ≤ l.text.length := by
      simp only [text, List.length_append, List.length_singleton]
      omega
    cases loads with
    | nil =>
      rw [source_singleton, List.append_nil]
      exact semicolon
    | cons l' loads =>
      have whole : (source (l :: l' :: loads)).length =
          l.text.length + ((source (l' :: loads)).length + 1) := by
        rw [source_cons_cons, List.length_append, List.length_cons]
      rw [whole, List.length_cons]
      omega

/-- No statement looks like the line that names an interpreter. -/
theorem dropInterpreter_source (loads : List Load) :
    dropInterpreter (source loads) = source loads := by
  cases loads with
  | nil => rfl
  | cons l loads =>
    obtain ⟨more, whole⟩ : ∃ more, source (l :: loads) = l.text ++ more := by
      cases loads with
      | nil => exact ⟨_, source_singleton l⟩
      | cons l' loads => exact ⟨_, source_cons_cons l l' loads⟩
    obtain ⟨form, q, ls, full⟩ := l
    rw [whole]
    cases form <;> rfl

theorem outline_source (loads : List Load) :
    outline (source loads) = .group (loads.flatMap fun l => [l.node, .leaf]) := by
  -- A statement takes two steps of depth, and at least one character.
  obtain ⟨d, depth⟩ : ∃ d, depthFor (source loads).length = d + 2 * loads.length + 9 := by
    have short := length_le_source loads
    refine ⟨depthFor (source loads).length - (2 * loads.length + 9), ?_⟩
    unfold depthFor
    omega
  rw [outline, dropInterpreter_source, depth, optional, readGoal_source]
  rfl

theorem loaded_node (l : Load) : Node.loaded [l.node] = [Letter.parts l.letters] := by
  obtain ⟨form, q, ls, full⟩ := l
  cases form <;> rfl

theorem loaded_nodes (loads : List Load) :
    Node.loaded (loads.flatMap fun l => [l.node, .leaf]) =
      loads.map fun l => Letter.parts l.letters := by
  induction loads with
  | nil => rfl
  | cons l loads ih =>
    have here : Node.loaded [l.node, .leaf] = [Letter.parts l.letters] := by
      rw [← List.singleton_append, Node.loaded_append, loaded_node]
      rfl
    rw [List.flatMap_cons, Node.loaded_append, here, ih]
    rfl

theorem mapM_literalValue?_parts (loads : List Load) :
    (loads.map fun l => Letter.parts l.letters).mapM literalValue? =
      some ((loads.map module).map Text.points) := by
  induction loads with
  | nil => rfl
  | cons l loads ih =>
    rw [List.map_cons, List.mapM_cons, literalValue?_parts, ih]
    rfl

/-- The modules that statements load are found in their texts, each where it comes first, whatever
the forms of the statements are and however the names are written. -/
theorem importSpecifiers_source (loads : List Load) :
    importSpecifiers (String.ofList (source loads)) =
      .ok ((loads.map module).eraseDups.map Text.points) := by
  have injective : Function.Injective Text.points := fun _ _ => Text.points_inj.mp
  rw [importSpecifiers, String.toList_ofList, outline_source, ← eraseDups_map injective]
  apply Node.specifiers_eq
  rw [Node.loaded_group, loaded_nodes, mapM_literalValue?_parts]

/-- One name in two spellings is found once. -/
theorem importSpecifiers_of_two_spellings :
    importSpecifiers "import x from '//';\nrequire(\"\\x2F\\u{2f}\");\nexport * from 'a';" =
      .ok [Text.points "//", Text.points "a"] := by
  let slash : Letter := ⟨'/', by decide, .plain⟩
  let byte : Letter := ⟨'/', by decide, .byte [⟨2, false⟩, ⟨15, true⟩] rfl (by decide)⟩
  let braced : Letter := ⟨'/', by decide, .braced [⟨2, false⟩, ⟨15, false⟩] (by decide)⟩
  exact importSpecifiers_source [⟨.imported, .single, [slash, slash], by simp⟩,
    ⟨.required, .double, [byte, braced], by simp⟩,
    ⟨.exported, .single, [⟨'a', by decide, .plain⟩], by simp⟩]

end Load

end AmbientTypes.Syntax
