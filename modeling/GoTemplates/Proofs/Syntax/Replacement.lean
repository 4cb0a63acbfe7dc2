import GoTemplates.Syntax.Children

/-! # Replacing a child

The child table and the slot table describe the same shape. For every node and
every child the child table lists, the slot table opens the child's place, and
putting a node there behaves as a lens:

* putting the child back gives the node unchanged;
* putting a node of a kind the place accepts succeeds, changes the child table at
  that place alone, and leaves the rest of the node as it was: whatever is put
  there next gives the same result as putting it into the original node;
* putting a node of any other kind fails with a kind mismatch.

What a place accepts is said once, in `NodeKind.placeKinds`, apart from both
tables. The proof goes kind by kind: for each child the child table lists, it
names the hole the slot table opens (`Spot`), and no two children of a node
stand at one place (`Node.children_distinct`), so the change is to one entry.
-/

namespace GoTemplates.Syntax

open Children Hole

/-! ## What a place stores -/

/-- The kinds of node a cell stores. -/
def Cell.kinds : Cell → List NodeKind
  | .expr => [.expr] | .type => [.type] | .stmt => [.stmt] | .simpleStmt => [.simpleStmt]
  | .genDecl => [.genDecl] | .topDecl => [.genDecl, .funcDecl] | .spec => [.spec]
  | .signature => [.signature] | .field => [.field] | .typeParams => [.typeParams]
  | .typeParamDecl => [.typeParamDecl] | .switchClause => [.switchClause]
  | .commClause => [.commClause] | .keyedElement => [.keyedElement]
  | .interfaceElem => [.interfaceElem] | .commentGroup => [.commentGroup]
  | .comment => [.comment] | .ident => [.ident] | .term => [.expr, .type]

/-- A stored value as a node. -/
def Cell.node : (k : Cell) → k.Value → Node
  | .expr, e => .expr e | .type, t => .type t | .stmt, s => .stmt s
  | .simpleStmt, s => .simpleStmt s | .genDecl, d => .genDecl d | .topDecl, d => d.node
  | .spec, s => .spec s | .signature, s => .signature s | .field, f => .field f
  | .typeParams, t => .typeParams t | .typeParamDecl, t => .typeParamDecl t
  | .switchClause, c => .switchClause c | .commClause, c => .commClause c
  | .keyedElement, e => .keyedElement e | .interfaceElem, e => .interfaceElem e
  | .commentGroup, g => .commentGroup g | .comment, c => .comment c | .ident, id => .ident id
  | .term, t => t.node

/-- What a cell takes from a node is the node itself, seen as a value. -/
theorem Cell.node_of_accept {k : Cell} {n : Node} {v : k.Value} (h : k.accept n = some v) :
    k.node v = n := by
  cases k <;> cases n <;> cases h <;> rfl

/-- A cell takes exactly the nodes of the kinds it stores. -/
theorem Cell.accept_isSome (k : Cell) (n : Node) :
    (k.accept n).isSome = k.kinds.contains n.kind := by
  cases k <;> cases n <;> rfl

theorem Cell.accept_isSome_iff (k : Cell) (n : Node) :
    (k.accept n).isSome ↔ n.kind ∈ k.kinds := by
  rw [Cell.accept_isSome, List.contains_iff_mem]

/-- A hole stores the value it is filled with. -/
theorem Hole.store_node (h : Hole) (v : h.cell.Value) :
    h.store (h.cell.node v) = some (h.fill v) := by
  obtain ⟨k, fill⟩ := h
  cases k <;> first | rfl | cases v <;> rfl

/-- The kinds a place accepts: the kind of the child that stands there, and for a file's
declarations and for the operands and callee of a call or index expression, the other kind
of the pair that may stand there. -/
def NodeKind.placeKinds (parent : NodeKind) (s : Slot) (held : NodeKind) : List NodeKind :=
  match parent, s with
  | .file, .decls => [.genDecl, .funcDecl]
  | .expr, .index | .expr, .args | .expr, .fun_ => [.expr, .type]
  | _, _ => [held]

/-! ## Child lists with one place changed -/

@[simp] theorem Place.nth_slot (s : Slot) (i : Nat) : (Place.nth s i).slot = s := rfl
@[simp] theorem Place.nth_index (s : Slot) (i : Nat) : (Place.nth s i).index = i := rfl

/-- An entry of a child list, with `c` put in it if it stands at `pl`. -/
def Place.put (pl : Place) (c : Node) (q : Place × Node) : Place × Node :=
  if q.1 = pl then (pl, c) else q

@[simp] theorem opt_some {α : Type} (s : Slot) (f : α → Node) (x : α) :
    opt s f (some x) = one s (f x) := rfl

@[simp] theorem opt_none {α : Type} (s : Slot) (f : α → Node) : opt s f none = [] := rfl

/-- Entries standing elsewhere are left as they are. -/
theorem map_put_of_forall_ne {l : List (Place × Node)} {pl : Place} {c : Node}
    (h : ∀ q ∈ l, q.1 ≠ pl) : l.map (pl.put c) = l :=
  (List.map_congr_left fun q hq => if_neg (h q hq)).trans (List.map_id _)

@[simp] theorem map_put_one_self (s : Slot) (c c' : Node) :
    (one s c).map ((Place.one s).put c') = one s c' := by
  simp [one, Place.put]

/-- A single child at another slot stays. -/
@[simp] theorem map_put_one_one {s t : Slot} {c c' : Node} (h : s ≠ t) :
    (one s c).map ((Place.one t).put c') = one s c := by
  simp [one, Place.put, Place.one, h]

/-- A single child never stands at a list position. -/
@[simp] theorem map_put_one_nth {s t : Slot} {i : Nat} {c c' : Node} :
    (one s c).map ((Place.nth t i).put c') = one s c := by
  simp only [one, List.map_cons, List.map_nil, Place.put, List.cons.injEq, and_true]
  rw [if_neg]
  simp only [Place.one, Place.nth, Place.mk.injEq, not_and]
  omega

@[simp] theorem map_put_opt_one {α : Type} {s t : Slot} {f : α → Node} {o : Option α}
    {c' : Node} (h : s ≠ t) : (opt s f o).map ((Place.one t).put c') = opt s f o := by
  cases o with
  | none => rfl
  | some x => exact map_put_one_one h

@[simp] theorem map_put_opt_nth {α : Type} {s t : Slot} {i : Nat} {f : α → Node}
    {o : Option α} {c' : Node} : (opt s f o).map ((Place.nth t i).put c') = opt s f o := by
  cases o with
  | none => rfl
  | some x => exact map_put_one_nth

/-- List elements stand at positions, never at a single child's place. -/
@[simp] theorem map_put_many_one {α : Type} {s t : Slot} {f : α → Node} {xs : List α}
    {c' : Node} : (many s f xs).map ((Place.one t).put c') = many s f xs := by
  refine map_put_of_forall_ne fun q hq => ?_
  obtain ⟨i, hi, rfl⟩ := List.mem_mapIdx.mp hq
  simp only [Place.one, Place.nth, ne_eq, Place.mk.injEq, not_and]
  omega

@[simp] theorem map_put_many_nth {α : Type} {s t : Slot} {j : Nat} {f : α → Node}
    {xs : List α} {c' : Node} (h : s ≠ t) :
    (many s f xs).map ((Place.nth t j).put c') = many s f xs := by
  refine map_put_of_forall_ne fun q hq => ?_
  obtain ⟨i, hi, rfl⟩ := List.mem_mapIdx.mp hq
  simp [Place.nth, h]

/-- Changing one element of a list changes its child list at that element's place alone. -/
theorem many_modify {α : Type} (s : Slot) (f : α → Node) (xs : List α) (i : Nat) (g : α → α)
    (c : Node) (hg : ∀ x, f (g x) = c) :
    many s f (xs.modify i g) = (many s f xs).map ((Place.nth s i).put c) := by
  apply List.ext_getElem
  · simp [many]
  · intro j h₁ h₂
    simp only [many, List.getElem_mapIdx, List.getElem_modify, List.getElem_map, Place.put,
      Place.nth, Place.mk.injEq, true_and, Int.natCast_inj]
    by_cases hij : i = j
    · subst hij
      simp [hg]
    · simp [hij, Ne.symm hij]

/-- Setting one element of a list changes its child list at that element's place alone. -/
@[simp] theorem many_set {α : Type} (s : Slot) (f : α → Node) (xs : List α) (i : Nat) (x : α) :
    many s f (xs.set i x) = (many s f xs).map ((Place.nth s i).put (f x)) := by
  -- setting is modifying by a constant function
  have hset : xs.set i x = xs.modify i fun _ => x := by
    apply List.ext_getElem
    · simp
    · intro j _ _
      simp only [List.getElem_set, List.getElem_modify]
  rw [hset, many_modify s f xs i _ (f x) fun _ => rfl]

/-- A type switch case's type stands at the case's position, counted from `k`. -/
theorem typeCases_entry {k : Nat} {items : List TypeCase} {q : Place × Node}
    (hq : q ∈ typeCases k items) :
    ∃ j t, items[j]? = some (.type t) ∧ q = (.nth .list (k + j), .type t) := by
  induction items generalizing k with
  | nil => simp [typeCases] at hq
  | cons it items ih =>
    cases it with
    | type t =>
      rcases List.mem_cons.mp hq with rfl | hq
      · exact ⟨0, t, rfl, rfl⟩
      · obtain ⟨j, t', hj, rfl⟩ := ih hq
        exact ⟨j + 1, t', hj, by rw [Nat.add_right_comm]; rfl⟩
    | nil p =>
      obtain ⟨j, t', hj, rfl⟩ := ih hq
      exact ⟨j + 1, t', hj, by rw [Nat.add_right_comm]; rfl⟩

@[simp] theorem map_put_typeCases_nth {k i : Nat} {items : List TypeCase} {t : Slot} {c' : Node}
    (h : Slot.list ≠ t) : (typeCases k items).map ((Place.nth t i).put c') = typeCases k items := by
  refine map_put_of_forall_ne fun q hq => ?_
  obtain ⟨j, u, -, rfl⟩ := typeCases_entry hq
  simp [Place.nth, h]

/-- Setting a type switch case's type changes its child list at that case's place alone. -/
theorem typeCases_set {k j : Nat} {items : List TypeCase} {t w : TypeExpr}
    (hj : items[j]? = some (.type t)) :
    typeCases k (items.set j (.type w)) =
      (typeCases k items).map ((Place.nth .list (k + j)).put (.type w)) := by
  induction items generalizing k j with
  | nil => simp at hj
  | cons it items ih =>
    cases j with
    | zero =>
      obtain rfl : it = .type t := by simpa using hj
      -- the later cases stand at positions past `k`
      have hrest : (typeCases (k + 1) items).map ((Place.nth .list k).put (.type w)) =
          typeCases (k + 1) items := by
        refine map_put_of_forall_ne fun q hq => ?_
        obtain ⟨j, u, -, rfl⟩ := typeCases_entry hq
        simp only [Place.nth, ne_eq, Place.mk.injEq, true_and]
        omega
      simp [typeCases, hrest, Place.put]
    | succ j =>
      have hj : items[j]? = some (.type t) := by simpa using hj
      have hk : k + 1 + j = k + (j + 1) := by omega
      cases it with
      | type u =>
        have hne : Place.nth .list k ≠ Place.nth .list (k + (j + 1)) := by
          simp only [Place.nth, ne_eq, Place.mk.injEq, true_and]
          omega
        simp [typeCases, ih hj, hk, Place.put, hne]
      | nil p => simp [typeCases, ih hj, hk]

/-- Writing a union term's own type back leaves the terms as they are. -/
theorem modify_type_self {terms : List UnionTerm} {i : Nat} (hi : i < terms.length) :
    terms.modify i (fun u => { u with type := terms[i].type }) = terms := by
  apply List.ext_getElem
  · simp
  · intro j _ _
    rw [List.getElem_modify]
    split
    · -- a union term is recursive, so it has no eta law to close this by `rfl`
      subst_vars
      generalize terms[j] = u
      cases u
      rfl
    · rfl

theorem mem_one {s : Slot} {c₀ : Node} {pl : Place} {c : Node} :
    (pl, c) ∈ one s c₀ ↔ pl = .one s ∧ c = c₀ := by
  simp [one]

theorem mem_opt {α : Type} {s : Slot} {f : α → Node} {o : Option α} {pl : Place} {c : Node} :
    (pl, c) ∈ opt s f o ↔ ∃ x, o = some x ∧ pl = .one s ∧ c = f x := by
  cases o <;> simp [one]

theorem mem_many {α : Type} {s : Slot} {f : α → Node} {xs : List α} {pl : Place} {c : Node} :
    (pl, c) ∈ many s f xs ↔ ∃ i, ∃ h : i < xs.length, pl = .nth s i ∧ c = f xs[i] := by
  simp only [many, List.mem_mapIdx, Prod.mk.injEq]
  exact exists_congr fun i => exists_congr fun _ => and_congr eq_comm eq_comm

/-! ## The hole at a child's place -/

/-- `c` stands at `pl` in `N` as the slot table sees it: the place opens to a hole that gives
`N` back when filled with `c`, whose cell stores the kinds `placeKinds` names, and whose every
filling is a node of `N`'s kind whose children change at `pl` alone and whose place `pl`
opens to the same hole. -/
def Spot (N : Node) (pl : Place) (c : Node) : Prop :=
  ∃ h : Hole, N.slot pl.slot pl.index = .ok h ∧ h.store c = some N ∧
    h.cell.kinds = N.kind.placeKinds pl.slot c.kind ∧
    ∀ v, (h.fill v).kind = N.kind ∧
      (h.fill v).children = N.children.map (pl.put (h.cell.node v)) ∧
      (h.fill v).slot pl.slot pl.index = .ok h

theorem openNth_of_lt {α : Type} {xs : List α} {i : Nat} (hi : i < xs.length)
    (h : Nat → Hole) : openNth i xs h = .ok (h i) := by
  simp [openNth, hi]

/-- A spot from the hole the slot table opens, the value standing in it, and what filling
the hole does. -/
theorem Spot.intro {N : Node} {pl : Place} {c : Node} {h : Hole}
    (hslot : N.slot pl.slot pl.index = .ok h) (v : h.cell.Value) (hc : h.cell.node v = c)
    (hfill : h.fill v = N) (hkinds : h.cell.kinds = N.kind.placeKinds pl.slot c.kind)
    (hput : ∀ w, (h.fill w).kind = N.kind ∧
      (h.fill w).children = N.children.map (pl.put (h.cell.node w)) ∧
      (h.fill w).slot pl.slot pl.index = .ok h) :
    Spot N pl c := by
  subst hc
  exact ⟨h, hslot, by rw [Hole.store_node, hfill], hkinds, hput⟩

/-- A list element's spot, from the list place the slot table opens. -/
theorem Spot.intro_nth {N : Node} {pl : Place} {c : Node} {α : Type} {xs : List α} {i : Nat}
    {hs : Nat → Hole} (hi : i < xs.length) (hslot : N.slot pl.slot pl.index = openNth i xs hs)
    (v : (hs i).cell.Value) (hc : (hs i).cell.node v = c)
    (hfill : (hs i).fill v = N) (hkinds : (hs i).cell.kinds = N.kind.placeKinds pl.slot c.kind)
    (hput : ∀ w, ((hs i).fill w).kind = N.kind ∧
      ((hs i).fill w).children = N.children.map (pl.put ((hs i).cell.node w)) ∧
      ((hs i).fill w).slot pl.slot pl.index = .ok (hs i)) :
    Spot N pl c :=
  Spot.intro (hslot.trans (openNth_of_lt hi hs)) v hc hfill hkinds hput

/-! ## Spots kind by kind -/

theorem Expr.spot (e : Expr) {pl : Place} {c : Node} (hc : (pl, c) ∈ e.children) :
    Spot (.expr e) pl c := by
  cases e with
  | ident | basicLit => simp [Expr.children] at hc
  | funcLit sp fp sig b =>
    obtain ⟨lb, stmts, rb⟩ := b
    simp only [Expr.children, List.mem_append, mem_one, mem_many] at hc
    rcases hc with ⟨rfl, rfl⟩ | ⟨i, hi, rfl, rfl⟩
    · exact Spot.intro rfl sig rfl rfl rfl fun w =>
        ⟨rfl, by simp [Node.children, Expr.children, Cell.node], rfl⟩
    · refine Spot.intro_nth hi (by delta Node.slot Expr.slot; exact rfl) (by exact stmts[i])
        (by rfl) (by simp) (by rfl) fun w => ⟨by rfl, ?_, ?_⟩
      · simp [Node.children, Expr.children, Cell.node]
      · delta Node.slot Expr.slot
        simp [openNth_of_lt, hi]
  | compositeLit sp t l =>
    obtain ⟨lb, els, rb⟩ := l
    simp only [Expr.children, List.mem_append, mem_one, mem_many] at hc
    rcases hc with ⟨rfl, rfl⟩ | ⟨i, hi, rfl, rfl⟩
    · exact Spot.intro rfl t rfl rfl rfl fun w =>
        ⟨rfl, by simp [Node.children, Expr.children, Cell.node], rfl⟩
    · refine Spot.intro_nth hi (by delta Node.slot Expr.slot; exact rfl) (by exact els[i])
        (by rfl) (by simp) (by rfl) fun w => ⟨by rfl, ?_, ?_⟩
      · simp [Node.children, Expr.children, Cell.node]
      · delta Node.slot Expr.slot
        simp [openNth_of_lt, hi]
  | index sp x lb args rb =>
    simp only [Expr.children, List.mem_append, mem_one, mem_many] at hc
    rcases hc with ⟨rfl, rfl⟩ | ⟨i, hi, rfl, rfl⟩
    · exact Spot.intro rfl x rfl rfl rfl fun w =>
        ⟨rfl, by simp [Node.children, Expr.children, Cell.node], rfl⟩
    · refine Spot.intro_nth hi (by delta Node.slot Expr.slot; exact rfl) (by exact args[i])
        (by rfl) (by simp) (by rfl) fun w => ⟨by rfl, ?_, ?_⟩
      · simp [Node.children, Expr.children, Cell.node]
      · delta Node.slot Expr.slot
        simp [openNth_of_lt, hi]
  | paren sp lp x rp =>
    simp only [Expr.children, mem_one] at hc
    obtain ⟨rfl, rfl⟩ := hc
    exact Spot.intro rfl x rfl rfl rfl fun w =>
      ⟨rfl, by simp [Node.children, Expr.children, Cell.node], rfl⟩
  | selector sp x dp sel =>
    simp only [Expr.children, List.mem_append, mem_one] at hc
    rcases hc with ⟨rfl, rfl⟩ | ⟨rfl, rfl⟩
    · exact Spot.intro rfl x rfl rfl rfl fun w =>
        ⟨rfl, by simp [Node.children, Expr.children, Cell.node], rfl⟩
    · exact Spot.intro rfl sel rfl rfl rfl fun w =>
        ⟨rfl, by simp [Node.children, Expr.children, Cell.node], rfl⟩
  | slice sp x lb lo hi mx rb =>
    simp only [Expr.children, List.mem_append, mem_one, mem_opt, or_assoc] at hc
    rcases hc with ⟨rfl, rfl⟩ | ⟨y, rfl, rfl, rfl⟩ | ⟨y, rfl, rfl, rfl⟩ | ⟨y, rfl, rfl, rfl⟩
    · exact Spot.intro rfl x rfl rfl rfl fun w =>
        ⟨rfl, by simp [Node.children, Expr.children, Cell.node], rfl⟩
    all_goals exact Spot.intro rfl y rfl rfl rfl fun w =>
      ⟨rfl, by simp [Node.children, Expr.children, Cell.node], rfl⟩
  | typeAssert sp x dp lp t rp =>
    simp only [Expr.children, List.mem_append, mem_one, mem_opt] at hc
    rcases hc with ⟨rfl, rfl⟩ | ⟨y, rfl, rfl, rfl⟩
    · exact Spot.intro rfl x rfl rfl rfl fun w =>
        ⟨rfl, by simp [Node.children, Expr.children, Cell.node], rfl⟩
    · exact Spot.intro rfl y rfl rfl rfl fun w =>
        ⟨rfl, by simp [Node.children, Expr.children, Cell.node], rfl⟩
  | call sp callee lp args ell rp =>
    simp only [Expr.children, List.mem_append, mem_one, mem_many] at hc
    rcases hc with ⟨rfl, rfl⟩ | ⟨i, hi, rfl, rfl⟩
    · exact Spot.intro rfl callee rfl rfl rfl fun w =>
        ⟨rfl, by simp [Node.children, Expr.children, Cell.node], rfl⟩
    · refine Spot.intro_nth hi (by delta Node.slot Expr.slot; exact rfl) (by exact args[i])
        (by rfl) (by simp) (by rfl) fun w => ⟨by rfl, ?_, ?_⟩
      · simp [Node.children, Expr.children, Cell.node]
      · delta Node.slot Expr.slot
        simp [openNth_of_lt, hi]
  | unary sp op opPos x =>
    simp only [Expr.children, mem_one] at hc
    obtain ⟨rfl, rfl⟩ := hc
    exact Spot.intro rfl x rfl rfl rfl fun w =>
      ⟨rfl, by simp [Node.children, Expr.children, Cell.node], rfl⟩
  | binary sp x op opPos y =>
    simp only [Expr.children, List.mem_append, mem_one] at hc
    rcases hc with ⟨rfl, rfl⟩ | ⟨rfl, rfl⟩
    · exact Spot.intro rfl x rfl rfl rfl fun w =>
        ⟨rfl, by simp [Node.children, Expr.children, Cell.node], rfl⟩
    · exact Spot.intro rfl y rfl rfl rfl fun w =>
        ⟨rfl, by simp [Node.children, Expr.children, Cell.node], rfl⟩

theorem TypeExpr.spot (t : TypeExpr) {pl : Place} {c : Node} (hc : (pl, c) ∈ t.children) :
    Spot (.type t) pl c := by
  cases t with
  | named sp pkg name lb args rb =>
    simp only [TypeExpr.children, List.mem_append, mem_one, mem_opt, mem_many, or_assoc] at hc
    rcases hc with ⟨p, rfl, rfl, rfl⟩ | ⟨rfl, rfl⟩ | ⟨i, hi, rfl, rfl⟩
    · exact Spot.intro rfl p rfl rfl rfl fun w =>
        ⟨rfl, by simp [Node.children, TypeExpr.children, Cell.node], rfl⟩
    · exact Spot.intro rfl name rfl rfl rfl fun w =>
        ⟨rfl, by simp [Node.children, TypeExpr.children, Cell.node], rfl⟩
    · refine Spot.intro_nth hi (by delta Node.slot TypeExpr.slot; exact rfl) (by exact args[i])
        (by rfl) (by simp) (by rfl) fun w => ⟨by rfl, ?_, ?_⟩
      · simp [Node.children, TypeExpr.children, Cell.node]
      · delta Node.slot TypeExpr.slot
        simp [openNth_of_lt, hi]
  | pointer sp p e | slice sp lb rb e | chan sp d cp ap e =>
    simp only [TypeExpr.children, mem_one] at hc
    obtain ⟨rfl, rfl⟩ := hc
    exact Spot.intro rfl e rfl rfl rfl fun w =>
      ⟨rfl, by simp [Node.children, TypeExpr.children, Cell.node], rfl⟩
  | array sp lb len rb e =>
    cases len with
    | expr len =>
      simp only [TypeExpr.children, List.mem_append, mem_one] at hc
      rcases hc with ⟨rfl, rfl⟩ | ⟨rfl, rfl⟩
      · exact Spot.intro rfl len rfl rfl rfl fun w =>
          ⟨rfl, by simp [Node.children, TypeExpr.children, Cell.node], rfl⟩
      · exact Spot.intro rfl e rfl rfl rfl fun w =>
          ⟨rfl, by simp [Node.children, TypeExpr.children, Cell.node], rfl⟩
    | ellipsis p =>
      simp only [TypeExpr.children, mem_one] at hc
      obtain ⟨rfl, rfl⟩ := hc
      exact Spot.intro rfl e rfl rfl rfl fun w =>
        ⟨rfl, by simp [Node.children, TypeExpr.children, Cell.node], rfl⟩
  | map sp mp lb k rb v =>
    simp only [TypeExpr.children, List.mem_append, mem_one] at hc
    rcases hc with ⟨rfl, rfl⟩ | ⟨rfl, rfl⟩
    · exact Spot.intro rfl k rfl rfl rfl fun w =>
        ⟨rfl, by simp [Node.children, TypeExpr.children, Cell.node], rfl⟩
    · exact Spot.intro rfl v rfl rfl rfl fun w =>
        ⟨rfl, by simp [Node.children, TypeExpr.children, Cell.node], rfl⟩
  | struct sp p fl =>
    obtain ⟨o, fields, cl⟩ := fl
    simp only [TypeExpr.children, mem_many] at hc
    obtain ⟨i, hi, rfl, rfl⟩ := hc
    refine Spot.intro_nth hi (by delta Node.slot TypeExpr.slot; exact rfl) (by exact fields[i])
      (by rfl) (by simp) (by rfl) fun w => ⟨by rfl, ?_, ?_⟩
    · simp [Node.children, TypeExpr.children, Cell.node]
    · delta Node.slot TypeExpr.slot
      simp [openNth_of_lt, hi]
  | interface sp p lb elems rb =>
    simp only [TypeExpr.children, mem_many] at hc
    obtain ⟨i, hi, rfl, rfl⟩ := hc
    refine Spot.intro_nth hi (by delta Node.slot TypeExpr.slot; exact rfl) (by exact elems[i])
      (by rfl) (by simp) (by rfl) fun w => ⟨by rfl, ?_, ?_⟩
    · simp [Node.children, TypeExpr.children, Cell.node]
    · delta Node.slot TypeExpr.slot
      simp [openNth_of_lt, hi]
  | func sp fp sig =>
    simp only [TypeExpr.children, mem_one] at hc
    obtain ⟨rfl, rfl⟩ := hc
    exact Spot.intro rfl sig rfl rfl rfl fun w =>
      ⟨rfl, by simp [Node.children, TypeExpr.children, Cell.node], rfl⟩
  | paren sp lp t rp =>
    simp only [TypeExpr.children, mem_one] at hc
    obtain ⟨rfl, rfl⟩ := hc
    exact Spot.intro rfl t rfl rfl rfl fun w =>
      ⟨rfl, by simp [Node.children, TypeExpr.children, Cell.node], rfl⟩
  | union sp terms =>
    simp only [TypeExpr.children, mem_many] at hc
    obtain ⟨i, hi, rfl, rfl⟩ := hc
    refine Spot.intro_nth hi (by delta Node.slot TypeExpr.slot; exact rfl)
      (by exact terms[i].type) (by rfl) (by simp only [modify_type_self hi]) (by rfl)
      fun w => ⟨by rfl, ?_, ?_⟩
    · simp only [Node.children, TypeExpr.children, Cell.node]
      exact many_modify _ _ _ _ _ _ fun _ => rfl
    · delta Node.slot TypeExpr.slot
      simp [openNth_of_lt, hi, List.modify_modify_eq, Function.comp_def]

theorem Stmt.spot (st : Stmt) {pl : Place} {c : Node} (hc : (pl, c) ∈ st.children) :
    Spot (.stmt st) pl c := by
  cases st with
  | empty => simp [Stmt.children] at hc
  | simple sp x =>
    simp only [Stmt.children, mem_one] at hc
    obtain ⟨rfl, rfl⟩ := hc
    exact Spot.intro rfl x rfl rfl rfl fun w =>
      ⟨rfl, by simp [Node.children, Stmt.children, Cell.node], rfl⟩
  | decl sp d =>
    simp only [Stmt.children, mem_one] at hc
    obtain ⟨rfl, rfl⟩ := hc
    exact Spot.intro rfl d rfl rfl rfl fun w =>
      ⟨rfl, by simp [Node.children, Stmt.children, Cell.node], rfl⟩
  | labeled sp l cp x =>
    simp only [Stmt.children, List.mem_append, mem_one] at hc
    rcases hc with ⟨rfl, rfl⟩ | ⟨rfl, rfl⟩
    · exact Spot.intro rfl l rfl rfl rfl fun w =>
        ⟨rfl, by simp [Node.children, Stmt.children, Cell.node], rfl⟩
    · exact Spot.intro rfl x rfl rfl rfl fun w =>
        ⟨rfl, by simp [Node.children, Stmt.children, Cell.node], rfl⟩
  | go sp p x | defer sp p x =>
    simp only [Stmt.children, mem_one] at hc
    obtain ⟨rfl, rfl⟩ := hc
    exact Spot.intro rfl x rfl rfl rfl fun w =>
      ⟨rfl, by simp [Node.children, Stmt.children, Cell.node], rfl⟩
  | return_ sp rp rs =>
    simp only [Stmt.children, mem_many] at hc
    obtain ⟨i, hi, rfl, rfl⟩ := hc
    refine Spot.intro_nth hi (by delta Node.slot Stmt.slot; exact rfl) (by exact rs[i])
      (by rfl) (by simp) (by rfl) fun w => ⟨by rfl, ?_, ?_⟩
    · simp [Node.children, Stmt.children, Cell.node]
    · delta Node.slot Stmt.slot
      simp [openNth_of_lt, hi]
  | branch sp k p l =>
    simp only [Stmt.children, mem_opt] at hc
    obtain ⟨y, rfl, rfl, rfl⟩ := hc
    exact Spot.intro rfl y rfl rfl rfl fun w =>
      ⟨rfl, by simp [Node.children, Stmt.children, Cell.node], rfl⟩
  | block sp blk =>
    obtain ⟨lb, stmts, rb⟩ := blk
    simp only [Stmt.children, mem_many] at hc
    obtain ⟨i, hi, rfl, rfl⟩ := hc
    refine Spot.intro_nth hi (by delta Node.slot Stmt.slot; exact rfl) (by exact stmts[i])
      (by rfl) (by simp) (by rfl) fun w => ⟨by rfl, ?_, ?_⟩
    · simp [Node.children, Stmt.children, Cell.node]
    · delta Node.slot Stmt.slot
      simp [openNth_of_lt, hi]
  | if_ sp ip init cond blk els =>
    obtain ⟨lb, stmts, rb⟩ := blk
    simp only [Stmt.children, List.mem_append, mem_one, mem_opt, mem_many, or_assoc] at hc
    rcases hc with ⟨y, rfl, rfl, rfl⟩ | ⟨rfl, rfl⟩ | ⟨i, hi, rfl, rfl⟩ | ⟨y, rfl, rfl, rfl⟩
    · exact Spot.intro rfl y rfl rfl rfl fun w =>
        ⟨rfl, by simp [Node.children, Stmt.children, Cell.node], rfl⟩
    · exact Spot.intro rfl cond rfl rfl rfl fun w =>
        ⟨rfl, by simp [Node.children, Stmt.children, Cell.node], rfl⟩
    · refine Spot.intro_nth hi (by delta Node.slot Stmt.slot; exact rfl) (by exact stmts[i])
        (by rfl) (by simp) (by rfl) fun w => ⟨by rfl, ?_, ?_⟩
      · simp [Node.children, Stmt.children, Cell.node]
      · delta Node.slot Stmt.slot
        simp [openNth_of_lt, hi]
    · exact Spot.intro rfl y rfl rfl rfl fun w =>
        ⟨rfl, by simp [Node.children, Stmt.children, Cell.node], rfl⟩
  | for_ sp fp hd blk =>
    obtain ⟨lb, stmts, rb⟩ := blk
    cases hd with
    | infinite =>
      simp only [Stmt.children, mem_many] at hc
      obtain ⟨i, hi, rfl, rfl⟩ := hc
      refine Spot.intro_nth hi (by delta Node.slot Stmt.slot; exact rfl) (by exact stmts[i])
        (by rfl) (by simp) (by rfl) fun w => ⟨by rfl, ?_, ?_⟩
      · simp [Node.children, Stmt.children, Cell.node]
      · delta Node.slot Stmt.slot
        simp [openNth_of_lt, hi]
    | cond x =>
      simp only [Stmt.children, List.mem_append, mem_one, mem_many] at hc
      rcases hc with ⟨rfl, rfl⟩ | ⟨i, hi, rfl, rfl⟩
      · exact Spot.intro rfl x rfl rfl rfl fun w =>
          ⟨rfl, by simp [Node.children, Stmt.children, Cell.node], rfl⟩
      · refine Spot.intro_nth hi (by delta Node.slot Stmt.slot; exact rfl) (by exact stmts[i])
          (by rfl) (by simp) (by rfl) fun w => ⟨by rfl, ?_, ?_⟩
        · simp [Node.children, Stmt.children, Cell.node]
        · delta Node.slot Stmt.slot
          simp [openNth_of_lt, hi]
    | clause init cond post =>
      simp only [Stmt.children, List.mem_append, mem_opt, mem_many, or_assoc] at hc
      rcases hc with ⟨y, rfl, rfl, rfl⟩ | ⟨y, rfl, rfl, rfl⟩ | ⟨y, rfl, rfl, rfl⟩ |
        ⟨i, hi, rfl, rfl⟩
      · exact Spot.intro rfl y rfl rfl rfl fun w =>
          ⟨rfl, by simp [Node.children, Stmt.children, Cell.node], rfl⟩
      · exact Spot.intro rfl y rfl rfl rfl fun w =>
          ⟨rfl, by simp [Node.children, Stmt.children, Cell.node], rfl⟩
      · exact Spot.intro rfl y rfl rfl rfl fun w =>
          ⟨rfl, by simp [Node.children, Stmt.children, Cell.node], rfl⟩
      · refine Spot.intro_nth hi (by delta Node.slot Stmt.slot; exact rfl) (by exact stmts[i])
          (by rfl) (by simp) (by rfl) fun w => ⟨by rfl, ?_, ?_⟩
        · simp [Node.children, Stmt.children, Cell.node]
        · delta Node.slot Stmt.slot
          simp [openNth_of_lt, hi]
    | range lhs rp x =>
      rcases lhs with _ | ⟨names, op⟩ | ⟨exprs, op⟩
      · simp only [Stmt.children, rangeLhs, List.nil_append, List.mem_append, mem_one,
          mem_many] at hc
        rcases hc with ⟨rfl, rfl⟩ | ⟨i, hi, rfl, rfl⟩
        · exact Spot.intro rfl x rfl rfl rfl fun w =>
            ⟨rfl, by simp [Node.children, Stmt.children, Cell.node, rangeLhs], rfl⟩
        · refine Spot.intro_nth hi (by delta Node.slot Stmt.slot; exact rfl) (by exact stmts[i])
            (by rfl) (by simp) (by rfl) fun w => ⟨by rfl, ?_, ?_⟩
          · simp [Node.children, Stmt.children, Cell.node, rangeLhs]
          · delta Node.slot Stmt.slot
            simp [openNth_of_lt, hi]
      · simp only [Stmt.children, rangeLhs, List.mem_append, mem_one, mem_many, or_assoc] at hc
        rcases hc with ⟨i, hi, rfl, rfl⟩ | ⟨rfl, rfl⟩ | ⟨i, hi, rfl, rfl⟩
        · refine Spot.intro_nth hi (by delta Node.slot Stmt.slot; exact rfl) (by exact names[i])
            (by rfl) (by simp) (by rfl) fun w => ⟨by rfl, ?_, ?_⟩
          · simp [Node.children, Stmt.children, Cell.node, rangeLhs]
          · delta Node.slot Stmt.slot
            simp [openNth_of_lt, hi]
        · exact Spot.intro rfl x rfl rfl rfl fun w =>
            ⟨rfl, by simp [Node.children, Stmt.children, Cell.node, rangeLhs], rfl⟩
        · refine Spot.intro_nth hi (by delta Node.slot Stmt.slot; exact rfl) (by exact stmts[i])
            (by rfl) (by simp) (by rfl) fun w => ⟨by rfl, ?_, ?_⟩
          · simp [Node.children, Stmt.children, Cell.node, rangeLhs]
          · delta Node.slot Stmt.slot
            simp [openNth_of_lt, hi]
      · simp only [Stmt.children, rangeLhs, List.mem_append, mem_one, mem_many, or_assoc] at hc
        rcases hc with ⟨i, hi, rfl, rfl⟩ | ⟨rfl, rfl⟩ | ⟨i, hi, rfl, rfl⟩
        · refine Spot.intro_nth hi (by delta Node.slot Stmt.slot; exact rfl) (by exact exprs[i])
            (by rfl) (by simp) (by rfl) fun w => ⟨by rfl, ?_, ?_⟩
          · simp [Node.children, Stmt.children, Cell.node, rangeLhs]
          · delta Node.slot Stmt.slot
            simp [openNth_of_lt, hi]
        · exact Spot.intro rfl x rfl rfl rfl fun w =>
            ⟨rfl, by simp [Node.children, Stmt.children, Cell.node, rangeLhs], rfl⟩
        · refine Spot.intro_nth hi (by delta Node.slot Stmt.slot; exact rfl) (by exact stmts[i])
            (by rfl) (by simp) (by rfl) fun w => ⟨by rfl, ?_, ?_⟩
          · simp [Node.children, Stmt.children, Cell.node, rangeLhs]
          · delta Node.slot Stmt.slot
            simp [openNth_of_lt, hi]
  | switch sp swp init tag lb clauses rb =>
    simp only [Stmt.children, List.mem_append, mem_opt, mem_many, or_assoc] at hc
    rcases hc with ⟨y, rfl, rfl, rfl⟩ | ⟨y, rfl, rfl, rfl⟩ | ⟨i, hi, rfl, rfl⟩
    · exact Spot.intro rfl y rfl rfl rfl fun w =>
        ⟨rfl, by simp [Node.children, Stmt.children, Cell.node], rfl⟩
    · exact Spot.intro rfl y rfl rfl rfl fun w =>
        ⟨rfl, by simp [Node.children, Stmt.children, Cell.node], rfl⟩
    · refine Spot.intro_nth hi (by delta Node.slot Stmt.slot; exact rfl) (by exact clauses[i])
        (by rfl) (by simp) (by rfl) fun w => ⟨by rfl, ?_, ?_⟩
      · simp [Node.children, Stmt.children, Cell.node]
      · delta Node.slot Stmt.slot
        simp [openNth_of_lt, hi]
  | typeSwitch sp swp init bind dp x dotPos lp rp lb clauses rb =>
    simp only [Stmt.children, List.mem_append, mem_one, mem_opt, mem_many, or_assoc] at hc
    rcases hc with ⟨y, rfl, rfl, rfl⟩ | ⟨y, rfl, rfl, rfl⟩ | ⟨rfl, rfl⟩ | ⟨i, hi, rfl, rfl⟩
    · exact Spot.intro rfl y rfl rfl rfl fun w =>
        ⟨rfl, by simp [Node.children, Stmt.children, Cell.node], rfl⟩
    · exact Spot.intro rfl y rfl rfl rfl fun w =>
        ⟨rfl, by simp [Node.children, Stmt.children, Cell.node], rfl⟩
    · exact Spot.intro rfl x rfl rfl rfl fun w =>
        ⟨rfl, by simp [Node.children, Stmt.children, Cell.node], rfl⟩
    · refine Spot.intro_nth hi (by delta Node.slot Stmt.slot; exact rfl) (by exact clauses[i])
        (by rfl) (by simp) (by rfl) fun w => ⟨by rfl, ?_, ?_⟩
      · simp [Node.children, Stmt.children, Cell.node]
      · delta Node.slot Stmt.slot
        simp [openNth_of_lt, hi]
  | select sp sp' lb clauses rb =>
    simp only [Stmt.children, mem_many] at hc
    obtain ⟨i, hi, rfl, rfl⟩ := hc
    refine Spot.intro_nth hi (by delta Node.slot Stmt.slot; exact rfl) (by exact clauses[i])
      (by rfl) (by simp) (by rfl) fun w => ⟨by rfl, ?_, ?_⟩
    · simp [Node.children, Stmt.children, Cell.node]
    · delta Node.slot Stmt.slot
      simp [openNth_of_lt, hi]

theorem SimpleStmt.spot (st : SimpleStmt) {pl : Place} {c : Node} (hc : (pl, c) ∈ st.children) :
    Spot (.simpleStmt st) pl c := by
  cases st with
  | expr sp x | incDec sp x op opPos =>
    simp only [SimpleStmt.children, mem_one] at hc
    obtain ⟨rfl, rfl⟩ := hc
    exact Spot.intro rfl x rfl rfl rfl fun w =>
      ⟨rfl, by simp [Node.children, SimpleStmt.children, Cell.node], rfl⟩
  | send sp ch ap v =>
    simp only [SimpleStmt.children, List.mem_append, mem_one] at hc
    rcases hc with ⟨rfl, rfl⟩ | ⟨rfl, rfl⟩
    · exact Spot.intro rfl ch rfl rfl rfl fun w =>
        ⟨rfl, by simp [Node.children, SimpleStmt.children, Cell.node], rfl⟩
    · exact Spot.intro rfl v rfl rfl rfl fun w =>
        ⟨rfl, by simp [Node.children, SimpleStmt.children, Cell.node], rfl⟩
  | assign sp lhs op opPos rhs =>
    simp only [SimpleStmt.children, List.mem_append, mem_many] at hc
    rcases hc with ⟨i, hi, rfl, rfl⟩ | ⟨i, hi, rfl, rfl⟩
    · refine Spot.intro_nth hi (by delta Node.slot SimpleStmt.slot; exact rfl) (by exact lhs[i])
        (by rfl) (by simp) (by rfl) fun w => ⟨by rfl, ?_, ?_⟩
      · simp [Node.children, SimpleStmt.children, Cell.node]
      · delta Node.slot SimpleStmt.slot
        simp [openNth_of_lt, hi]
    · refine Spot.intro_nth hi (by delta Node.slot SimpleStmt.slot; exact rfl) (by exact rhs[i])
        (by rfl) (by simp) (by rfl) fun w => ⟨by rfl, ?_, ?_⟩
      · simp [Node.children, SimpleStmt.children, Cell.node]
      · delta Node.slot SimpleStmt.slot
        simp [openNth_of_lt, hi]
  | shortVarDecl sp names opPos values =>
    simp only [SimpleStmt.children, List.mem_append, mem_many] at hc
    rcases hc with ⟨i, hi, rfl, rfl⟩ | ⟨i, hi, rfl, rfl⟩
    · refine Spot.intro_nth hi (by delta Node.slot SimpleStmt.slot; exact rfl) (by exact names[i])
        (by rfl) (by simp) (by rfl) fun w => ⟨by rfl, ?_, ?_⟩
      · simp [Node.children, SimpleStmt.children, Cell.node]
      · delta Node.slot SimpleStmt.slot
        simp [openNth_of_lt, hi]
    · refine Spot.intro_nth hi (by delta Node.slot SimpleStmt.slot; exact rfl) (by exact values[i])
        (by rfl) (by simp) (by rfl) fun w => ⟨by rfl, ?_, ?_⟩
      · simp [Node.children, SimpleStmt.children, Cell.node]
      · delta Node.slot SimpleStmt.slot
        simp [openNth_of_lt, hi]

theorem SwitchClause.spot (cl : SwitchClause) {pl : Place} {c : Node}
    (hc : (pl, c) ∈ cl.children) : Spot (.switchClause cl) pl c := by
  cases cl with
  | exprs sp cp items colon stmts =>
    simp only [SwitchClause.children, List.mem_append, mem_many] at hc
    rcases hc with ⟨i, hi, rfl, rfl⟩ | ⟨i, hi, rfl, rfl⟩
    · refine Spot.intro_nth hi (by delta Node.slot SwitchClause.slot; exact rfl) (by exact items[i])
        (by rfl) (by simp) (by rfl) fun w => ⟨by rfl, ?_, ?_⟩
      · simp [Node.children, SwitchClause.children, Cell.node]
      · delta Node.slot SwitchClause.slot
        simp [openNth_of_lt, hi]
    · refine Spot.intro_nth hi (by delta Node.slot SwitchClause.slot; exact rfl) (by exact stmts[i])
        (by rfl) (by simp) (by rfl) fun w => ⟨by rfl, ?_, ?_⟩
      · simp [Node.children, SwitchClause.children, Cell.node]
      · delta Node.slot SwitchClause.slot
        simp [openNth_of_lt, hi]
  | types sp cp items colon stmts =>
    rcases List.mem_append.mp hc with hc | hc
    · -- a case's type: `nil` cases have no node, so the place holds a type
      obtain ⟨i, t, hj, h⟩ := typeCases_entry hc
      simp only [Nat.zero_add, Prod.mk.injEq] at h
      obtain ⟨rfl, rfl⟩ := h
      obtain ⟨hi, hit⟩ := List.getElem?_eq_some_iff.mp hj
      refine Spot.intro_nth hi (by delta Node.slot SwitchClause.slot; exact rfl) (by exact t)
        (by rfl) (by simp only [← hit, List.set_getElem_self]) (by rfl) fun w => ⟨by rfl, ?_, ?_⟩
      · simp [Node.children, SwitchClause.children, Cell.node, typeCases_set hj]
      · delta Node.slot SwitchClause.slot
        simp [openNth_of_lt, hi]
    · simp only [mem_many] at hc
      obtain ⟨i, hi, rfl, rfl⟩ := hc
      refine Spot.intro_nth hi (by delta Node.slot SwitchClause.slot; exact rfl) (by exact stmts[i])
        (by rfl) (by simp) (by rfl) fun w => ⟨by rfl, ?_, ?_⟩
      · simp [Node.children, SwitchClause.children, Cell.node]
      · delta Node.slot SwitchClause.slot
        simp [openNth_of_lt, hi]

theorem CommClause.spot (cl : CommClause) {pl : Place} {c : Node}
    (hc : (pl, c) ∈ cl.children) : Spot (.commClause cl) pl c := by
  cases cl with
  | send sp cp ch ap v colon stmts =>
    simp only [CommClause.children, List.mem_append, mem_one, mem_many, or_assoc] at hc
    rcases hc with ⟨rfl, rfl⟩ | ⟨rfl, rfl⟩ | ⟨i, hi, rfl, rfl⟩
    · exact Spot.intro rfl ch rfl rfl rfl fun w =>
        ⟨rfl, by simp [Node.children, CommClause.children, Cell.node], rfl⟩
    · exact Spot.intro rfl v rfl rfl rfl fun w =>
        ⟨rfl, by simp [Node.children, CommClause.children, Cell.node], rfl⟩
    · refine Spot.intro_nth hi (by delta Node.slot CommClause.slot; exact rfl) (by exact stmts[i])
        (by rfl) (by simp) (by rfl) fun w => ⟨by rfl, ?_, ?_⟩
      · simp [Node.children, CommClause.children, Cell.node]
      · delta Node.slot CommClause.slot
        simp [openNth_of_lt, hi]
  | recv sp cp lhs x colon stmts =>
    rcases lhs with _ | ⟨names, op⟩ | ⟨exprs, op⟩
    · simp only [CommClause.children, rangeLhs, List.nil_append, List.mem_append, mem_one,
        mem_many] at hc
      rcases hc with ⟨rfl, rfl⟩ | ⟨i, hi, rfl, rfl⟩
      · exact Spot.intro rfl x rfl rfl rfl fun w =>
          ⟨rfl, by simp [Node.children, CommClause.children, Cell.node, rangeLhs], rfl⟩
      · refine Spot.intro_nth hi (by delta Node.slot CommClause.slot; exact rfl) (by exact stmts[i])
          (by rfl) (by simp) (by rfl) fun w => ⟨by rfl, ?_, ?_⟩
        · simp [Node.children, CommClause.children, Cell.node, rangeLhs]
        · delta Node.slot CommClause.slot
          simp [openNth_of_lt, hi]
    · simp only [CommClause.children, rangeLhs, List.mem_append, mem_one, mem_many, or_assoc] at hc
      rcases hc with ⟨i, hi, rfl, rfl⟩ | ⟨rfl, rfl⟩ | ⟨i, hi, rfl, rfl⟩
      · refine Spot.intro_nth hi (by delta Node.slot CommClause.slot; exact rfl) (by exact names[i])
          (by rfl) (by simp) (by rfl) fun w => ⟨by rfl, ?_, ?_⟩
        · simp [Node.children, CommClause.children, Cell.node, rangeLhs]
        · delta Node.slot CommClause.slot
          simp [openNth_of_lt, hi]
      · exact Spot.intro rfl x rfl rfl rfl fun w =>
          ⟨rfl, by simp [Node.children, CommClause.children, Cell.node, rangeLhs], rfl⟩
      · refine Spot.intro_nth hi (by delta Node.slot CommClause.slot; exact rfl) (by exact stmts[i])
          (by rfl) (by simp) (by rfl) fun w => ⟨by rfl, ?_, ?_⟩
        · simp [Node.children, CommClause.children, Cell.node, rangeLhs]
        · delta Node.slot CommClause.slot
          simp [openNth_of_lt, hi]
    · simp only [CommClause.children, rangeLhs, List.mem_append, mem_one, mem_many, or_assoc] at hc
      rcases hc with ⟨i, hi, rfl, rfl⟩ | ⟨rfl, rfl⟩ | ⟨i, hi, rfl, rfl⟩
      · refine Spot.intro_nth hi (by delta Node.slot CommClause.slot; exact rfl) (by exact exprs[i])
          (by rfl) (by simp) (by rfl) fun w => ⟨by rfl, ?_, ?_⟩
        · simp [Node.children, CommClause.children, Cell.node, rangeLhs]
        · delta Node.slot CommClause.slot
          simp [openNth_of_lt, hi]
      · exact Spot.intro rfl x rfl rfl rfl fun w =>
          ⟨rfl, by simp [Node.children, CommClause.children, Cell.node, rangeLhs], rfl⟩
      · refine Spot.intro_nth hi (by delta Node.slot CommClause.slot; exact rfl) (by exact stmts[i])
          (by rfl) (by simp) (by rfl) fun w => ⟨by rfl, ?_, ?_⟩
        · simp [Node.children, CommClause.children, Cell.node, rangeLhs]
        · delta Node.slot CommClause.slot
          simp [openNth_of_lt, hi]
  | default sp dp colon stmts =>
    simp only [CommClause.children, mem_many] at hc
    obtain ⟨i, hi, rfl, rfl⟩ := hc
    refine Spot.intro_nth hi (by delta Node.slot CommClause.slot; exact rfl) (by exact stmts[i])
      (by rfl) (by simp) (by rfl) fun w => ⟨by rfl, ?_, ?_⟩
    · simp [Node.children, CommClause.children, Cell.node]
    · delta Node.slot CommClause.slot
      simp [openNth_of_lt, hi]

theorem InterfaceElem.spot (e : InterfaceElem) {pl : Place} {c : Node}
    (hc : (pl, c) ∈ e.children) : Spot (.interfaceElem e) pl c := by
  cases e with
  | method name sig =>
    simp only [InterfaceElem.children, List.mem_append, mem_one] at hc
    rcases hc with ⟨rfl, rfl⟩ | ⟨rfl, rfl⟩
    · exact Spot.intro rfl name rfl rfl rfl fun w =>
        ⟨rfl, by simp [Node.children, InterfaceElem.children, Cell.node], rfl⟩
    · exact Spot.intro rfl sig rfl rfl rfl fun w =>
        ⟨rfl, by simp [Node.children, InterfaceElem.children, Cell.node], rfl⟩
  | embed t =>
    simp only [InterfaceElem.children, mem_one] at hc
    obtain ⟨rfl, rfl⟩ := hc
    exact Spot.intro rfl t rfl rfl rfl fun w =>
      ⟨rfl, by simp [Node.children, InterfaceElem.children, Cell.node], rfl⟩

theorem KeyedElement.spot (e : KeyedElement) {pl : Place} {c : Node}
    (hc : (pl, c) ∈ e.children) : Spot (.keyedElement e) pl c := by
  obtain ⟨key, colon, value⟩ := e
  -- the key and the value are split apart so that both slot tables' matches reduce
  rcases key with _ | k | ⟨lb, els, rb⟩ <;> rcases value with v | ⟨lb', els', rb'⟩ <;>
    simp only [KeyedElement.children, element, List.mem_append, mem_one, mem_many] at hc
  · obtain ⟨rfl, rfl⟩ := hc
    exact Spot.intro rfl v rfl rfl rfl fun w =>
      ⟨rfl, by simp [Node.children, KeyedElement.children, Cell.node, element], rfl⟩
  · obtain ⟨i, hi, rfl, rfl⟩ := hc
    refine Spot.intro_nth hi (by delta Node.slot KeyedElement.slot; exact rfl) (by exact els'[i])
      (by rfl) (by simp) (by rfl) fun w => ⟨by rfl, ?_, ?_⟩
    · simp [Node.children, KeyedElement.children, Cell.node, element]
    · delta Node.slot KeyedElement.slot
      simp [openNth_of_lt, hi]
  · rcases hc with ⟨rfl, rfl⟩ | ⟨rfl, rfl⟩
    · exact Spot.intro rfl k rfl rfl rfl fun w =>
        ⟨rfl, by simp [Node.children, KeyedElement.children, Cell.node, element], rfl⟩
    · exact Spot.intro rfl v rfl rfl rfl fun w =>
        ⟨rfl, by simp [Node.children, KeyedElement.children, Cell.node, element], rfl⟩
  · rcases hc with ⟨rfl, rfl⟩ | ⟨i, hi, rfl, rfl⟩
    · exact Spot.intro rfl k rfl rfl rfl fun w =>
        ⟨rfl, by simp [Node.children, KeyedElement.children, Cell.node, element], rfl⟩
    · refine Spot.intro_nth hi (by delta Node.slot KeyedElement.slot; exact rfl) (by exact els'[i])
        (by rfl) (by simp) (by rfl) fun w => ⟨by rfl, ?_, ?_⟩
      · simp [Node.children, KeyedElement.children, Cell.node, element]
      · delta Node.slot KeyedElement.slot
        simp [openNth_of_lt, hi]
  · rcases hc with ⟨i, hi, rfl, rfl⟩ | ⟨rfl, rfl⟩
    · refine Spot.intro_nth hi (by delta Node.slot KeyedElement.slot; exact rfl) (by exact els[i])
        (by rfl) (by simp) (by rfl) fun w => ⟨by rfl, ?_, ?_⟩
      · simp [Node.children, KeyedElement.children, Cell.node, element]
      · delta Node.slot KeyedElement.slot
        simp [openNth_of_lt, hi]
    · exact Spot.intro rfl v rfl rfl rfl fun w =>
        ⟨rfl, by simp [Node.children, KeyedElement.children, Cell.node, element], rfl⟩
  · rcases hc with ⟨i, hi, rfl, rfl⟩ | ⟨i, hi, rfl, rfl⟩
    · refine Spot.intro_nth hi (by delta Node.slot KeyedElement.slot; exact rfl) (by exact els[i])
        (by rfl) (by simp) (by rfl) fun w => ⟨by rfl, ?_, ?_⟩
      · simp [Node.children, KeyedElement.children, Cell.node, element]
      · delta Node.slot KeyedElement.slot
        simp [openNth_of_lt, hi]
    · refine Spot.intro_nth hi (by delta Node.slot KeyedElement.slot; exact rfl) (by exact els'[i])
        (by rfl) (by simp) (by rfl) fun w => ⟨by rfl, ?_, ?_⟩
      · simp [Node.children, KeyedElement.children, Cell.node, element]
      · delta Node.slot KeyedElement.slot
        simp [openNth_of_lt, hi]

theorem Signature.spot (sig : Signature) {pl : Place} {c : Node}
    (hc : (pl, c) ∈ sig.children) : Spot (.signature sig) pl c := by
  obtain ⟨sp, ⟨o, params, cl⟩, results⟩ := sig
  rcases results with _ | ⟨⟨o', fields, cl'⟩⟩ | t <;>
    simp only [Signature.children, List.mem_append, mem_one, mem_many] at hc
  · obtain ⟨i, hi, rfl, rfl⟩ := hc
    refine Spot.intro_nth hi (by delta Node.slot Signature.slot; exact rfl) (by exact params[i])
      (by rfl) (by simp) (by rfl) fun w => ⟨by rfl, ?_, ?_⟩
    · simp [Node.children, Signature.children, Cell.node]
    · delta Node.slot Signature.slot
      simp [openNth_of_lt, hi]
  · rcases hc with ⟨i, hi, rfl, rfl⟩ | ⟨i, hi, rfl, rfl⟩
    · refine Spot.intro_nth hi (by delta Node.slot Signature.slot; exact rfl) (by exact params[i])
        (by rfl) (by simp) (by rfl) fun w => ⟨by rfl, ?_, ?_⟩
      · simp [Node.children, Signature.children, Cell.node]
      · delta Node.slot Signature.slot
        simp [openNth_of_lt, hi]
    · refine Spot.intro_nth hi (by delta Node.slot Signature.slot; exact rfl) (by exact fields[i])
        (by rfl) (by simp) (by rfl) fun w => ⟨by rfl, ?_, ?_⟩
      · simp [Node.children, Signature.children, Cell.node]
      · delta Node.slot Signature.slot
        simp [openNth_of_lt, hi]
  · rcases hc with ⟨i, hi, rfl, rfl⟩ | ⟨rfl, rfl⟩
    · refine Spot.intro_nth hi (by delta Node.slot Signature.slot; exact rfl) (by exact params[i])
        (by rfl) (by simp) (by rfl) fun w => ⟨by rfl, ?_, ?_⟩
      · simp [Node.children, Signature.children, Cell.node]
      · delta Node.slot Signature.slot
        simp [openNth_of_lt, hi]
    · exact Spot.intro rfl t rfl rfl rfl fun w =>
        ⟨rfl, by simp [Node.children, Signature.children, Cell.node], rfl⟩

theorem Field.spot (f : Field) {pl : Place} {c : Node} (hc : (pl, c) ∈ f.children) :
    Spot (.field f) pl c := by
  obtain ⟨sp, doc, names, ell, t, tag, cmt⟩ := f
  simp only [Field.children, List.mem_append, mem_one, mem_opt, mem_many, or_assoc] at hc
  rcases hc with ⟨g, rfl, rfl, rfl⟩ | ⟨i, hi, rfl, rfl⟩ | ⟨rfl, rfl⟩ | ⟨g, rfl, rfl, rfl⟩
  · exact Spot.intro rfl g rfl rfl rfl fun w =>
      ⟨rfl, by simp [Node.children, Field.children, Cell.node], rfl⟩
  · refine Spot.intro_nth hi (by delta Node.slot Field.slot; exact rfl) (by exact names[i])
      (by rfl) (by simp) (by rfl) fun w => ⟨by rfl, ?_, ?_⟩
    · simp [Node.children, Field.children, Cell.node]
    · delta Node.slot Field.slot
      simp [openNth_of_lt, hi]
  · exact Spot.intro rfl t rfl rfl rfl fun w =>
      ⟨rfl, by simp [Node.children, Field.children, Cell.node], rfl⟩
  · exact Spot.intro rfl g rfl rfl rfl fun w =>
      ⟨rfl, by simp [Node.children, Field.children, Cell.node], rfl⟩

theorem Spec.spot (spec : Spec) {pl : Place} {c : Node} (hc : (pl, c) ∈ spec.children) :
    Spot (.spec spec) pl c := by
  cases spec with
  | import_ doc name path cmt =>
    -- only a named import has a name child
    rcases name with _ | ⟨p⟩ | ⟨p⟩ | ⟨id⟩
    all_goals simp only [Spec.children, List.mem_append, mem_one, mem_opt, or_assoc] at hc
    · rcases hc with ⟨g, rfl, rfl, rfl⟩ | ⟨g, rfl, rfl, rfl⟩
      · exact Spot.intro rfl g rfl rfl rfl fun w =>
          ⟨rfl, by simp [Node.children, Spec.children, Cell.node], rfl⟩
      · exact Spot.intro rfl g rfl rfl rfl fun w =>
          ⟨rfl, by simp [Node.children, Spec.children, Cell.node], rfl⟩
    · rcases hc with ⟨g, rfl, rfl, rfl⟩ | ⟨g, rfl, rfl, rfl⟩
      · exact Spot.intro rfl g rfl rfl rfl fun w =>
          ⟨rfl, by simp [Node.children, Spec.children, Cell.node], rfl⟩
      · exact Spot.intro rfl g rfl rfl rfl fun w =>
          ⟨rfl, by simp [Node.children, Spec.children, Cell.node], rfl⟩
    · rcases hc with ⟨g, rfl, rfl, rfl⟩ | ⟨g, rfl, rfl, rfl⟩
      · exact Spot.intro rfl g rfl rfl rfl fun w =>
          ⟨rfl, by simp [Node.children, Spec.children, Cell.node], rfl⟩
      · exact Spot.intro rfl g rfl rfl rfl fun w =>
          ⟨rfl, by simp [Node.children, Spec.children, Cell.node], rfl⟩
    · rcases hc with ⟨g, rfl, rfl, rfl⟩ | ⟨rfl, rfl⟩ | ⟨g, rfl, rfl, rfl⟩
      · exact Spot.intro rfl g rfl rfl rfl fun w =>
          ⟨rfl, by simp [Node.children, Spec.children, Cell.node], rfl⟩
      · exact Spot.intro rfl id rfl rfl rfl fun w =>
          ⟨rfl, by simp [Node.children, Spec.children, Cell.node], rfl⟩
      · exact Spot.intro rfl g rfl rfl rfl fun w =>
          ⟨rfl, by simp [Node.children, Spec.children, Cell.node], rfl⟩
  | value doc names t ap values cmt =>
    simp only [Spec.children, List.mem_append, mem_opt, mem_many, or_assoc] at hc
    rcases hc with ⟨g, rfl, rfl, rfl⟩ | ⟨i, hi, rfl, rfl⟩ | ⟨y, rfl, rfl, rfl⟩ | ⟨i, hi, rfl, rfl⟩ |
      ⟨g, rfl, rfl, rfl⟩
    · exact Spot.intro rfl g rfl rfl rfl fun w =>
        ⟨rfl, by simp [Node.children, Spec.children, Cell.node], rfl⟩
    · refine Spot.intro_nth hi (by delta Node.slot Spec.slot; exact rfl) (by exact names[i])
        (by rfl) (by simp) (by rfl) fun w => ⟨by rfl, ?_, ?_⟩
      · simp [Node.children, Spec.children, Cell.node]
      · delta Node.slot Spec.slot
        simp [openNth_of_lt, hi]
    · exact Spot.intro rfl y rfl rfl rfl fun w =>
        ⟨rfl, by simp [Node.children, Spec.children, Cell.node], rfl⟩
    · refine Spot.intro_nth hi (by delta Node.slot Spec.slot; exact rfl) (by exact values[i])
        (by rfl) (by simp) (by rfl) fun w => ⟨by rfl, ?_, ?_⟩
      · simp [Node.children, Spec.children, Cell.node]
      · delta Node.slot Spec.slot
        simp [openNth_of_lt, hi]
    · exact Spot.intro rfl g rfl rfl rfl fun w =>
        ⟨rfl, by simp [Node.children, Spec.children, Cell.node], rfl⟩
  | type doc name tps ap t cmt =>
    simp only [Spec.children, List.mem_append, mem_one, mem_opt, or_assoc] at hc
    rcases hc with ⟨g, rfl, rfl, rfl⟩ | ⟨rfl, rfl⟩ | ⟨y, rfl, rfl, rfl⟩ | ⟨rfl, rfl⟩ |
      ⟨g, rfl, rfl, rfl⟩
    · exact Spot.intro rfl g rfl rfl rfl fun w =>
        ⟨rfl, by simp [Node.children, Spec.children, Cell.node], rfl⟩
    · exact Spot.intro rfl name rfl rfl rfl fun w =>
        ⟨rfl, by simp [Node.children, Spec.children, Cell.node], rfl⟩
    · exact Spot.intro rfl y rfl rfl rfl fun w =>
        ⟨rfl, by simp [Node.children, Spec.children, Cell.node], rfl⟩
    · exact Spot.intro rfl t rfl rfl rfl fun w =>
        ⟨rfl, by simp [Node.children, Spec.children, Cell.node], rfl⟩
    · exact Spot.intro rfl g rfl rfl rfl fun w =>
        ⟨rfl, by simp [Node.children, Spec.children, Cell.node], rfl⟩

theorem GenDecl.spot (d : GenDecl) {pl : Place} {c : Node} (hc : (pl, c) ∈ d.children) :
    Spot (.genDecl d) pl c := by
  obtain ⟨sp, doc, kw, kind, lp, specs, rp⟩ := d
  simp only [GenDecl.children, List.mem_append, mem_opt, mem_many] at hc
  rcases hc with ⟨g, rfl, rfl, rfl⟩ | ⟨i, hi, rfl, rfl⟩
  · exact Spot.intro rfl g rfl rfl rfl fun w =>
      ⟨rfl, by simp [Node.children, GenDecl.children, Cell.node], rfl⟩
  · refine Spot.intro_nth hi (by delta Node.slot; exact rfl) (by exact specs[i])
      (by rfl) (by simp) (by rfl) fun w => ⟨by rfl, ?_, ?_⟩
    · simp [Node.children, GenDecl.children, Cell.node]
    · delta Node.slot
      simp [openNth_of_lt, hi]

theorem FuncDecl.spot (f : FuncDecl) {pl : Place} {c : Node} (hc : (pl, c) ∈ f.children) :
    Spot (.funcDecl f) pl c := by
  obtain ⟨sp, doc, fp, recv, name, tps, sig, body⟩ := f
  -- the receiver's and the body's children are there only with a receiver and a body
  rcases recv with _ | ⟨lp, rname, rt, rp⟩ <;> rcases body with _ | ⟨lb, stmts, rb⟩ <;>
    simp only [FuncDecl.children, List.mem_append, List.append_nil, mem_one,
      mem_opt, mem_many, or_assoc] at hc
  · rcases hc with ⟨g, rfl, rfl, rfl⟩ | ⟨rfl, rfl⟩ | ⟨y, rfl, rfl, rfl⟩ | ⟨rfl, rfl⟩
    · exact Spot.intro rfl g rfl rfl rfl fun w =>
        ⟨rfl, by simp [Node.children, FuncDecl.children, Cell.node], rfl⟩
    · exact Spot.intro rfl name rfl rfl rfl fun w =>
        ⟨rfl, by simp [Node.children, FuncDecl.children, Cell.node], rfl⟩
    · exact Spot.intro rfl y rfl rfl rfl fun w =>
        ⟨rfl, by simp [Node.children, FuncDecl.children, Cell.node], rfl⟩
    · exact Spot.intro rfl sig rfl rfl rfl fun w =>
        ⟨rfl, by simp [Node.children, FuncDecl.children, Cell.node], rfl⟩
  · rcases hc with ⟨g, rfl, rfl, rfl⟩ | ⟨rfl, rfl⟩ | ⟨y, rfl, rfl, rfl⟩ | ⟨rfl, rfl⟩ |
      ⟨i, hi, rfl, rfl⟩
    · exact Spot.intro rfl g rfl rfl rfl fun w =>
        ⟨rfl, by simp [Node.children, FuncDecl.children, Cell.node], rfl⟩
    · exact Spot.intro rfl name rfl rfl rfl fun w =>
        ⟨rfl, by simp [Node.children, FuncDecl.children, Cell.node], rfl⟩
    · exact Spot.intro rfl y rfl rfl rfl fun w =>
        ⟨rfl, by simp [Node.children, FuncDecl.children, Cell.node], rfl⟩
    · exact Spot.intro rfl sig rfl rfl rfl fun w =>
        ⟨rfl, by simp [Node.children, FuncDecl.children, Cell.node], rfl⟩
    · refine Spot.intro_nth hi (by delta Node.slot FuncDecl.slot; exact rfl) (by exact stmts[i])
        (by rfl) (by simp) (by rfl) fun w => ⟨by rfl, ?_, ?_⟩
      · simp [Node.children, FuncDecl.children, Cell.node]
      · delta Node.slot FuncDecl.slot
        simp [openNth_of_lt, hi]
  · rcases hc with ⟨g, rfl, rfl, rfl⟩ | ⟨n, rfl, rfl, rfl⟩ | ⟨rfl, rfl⟩ | ⟨rfl, rfl⟩ |
      ⟨y, rfl, rfl, rfl⟩ | ⟨rfl, rfl⟩
    · exact Spot.intro rfl g rfl rfl rfl fun w =>
        ⟨rfl, by simp [Node.children, FuncDecl.children, Cell.node], rfl⟩
    · exact Spot.intro rfl n rfl rfl rfl fun w =>
        ⟨rfl, by simp [Node.children, FuncDecl.children, Cell.node], rfl⟩
    · exact Spot.intro rfl rt rfl rfl rfl fun w =>
        ⟨rfl, by simp [Node.children, FuncDecl.children, Cell.node], rfl⟩
    · exact Spot.intro rfl name rfl rfl rfl fun w =>
        ⟨rfl, by simp [Node.children, FuncDecl.children, Cell.node], rfl⟩
    · exact Spot.intro rfl y rfl rfl rfl fun w =>
        ⟨rfl, by simp [Node.children, FuncDecl.children, Cell.node], rfl⟩
    · exact Spot.intro rfl sig rfl rfl rfl fun w =>
        ⟨rfl, by simp [Node.children, FuncDecl.children, Cell.node], rfl⟩
  · rcases hc with ⟨g, rfl, rfl, rfl⟩ | ⟨n, rfl, rfl, rfl⟩ | ⟨rfl, rfl⟩ | ⟨rfl, rfl⟩ |
      ⟨y, rfl, rfl, rfl⟩ | ⟨rfl, rfl⟩ | ⟨i, hi, rfl, rfl⟩
    · exact Spot.intro rfl g rfl rfl rfl fun w =>
        ⟨rfl, by simp [Node.children, FuncDecl.children, Cell.node], rfl⟩
    · exact Spot.intro rfl n rfl rfl rfl fun w =>
        ⟨rfl, by simp [Node.children, FuncDecl.children, Cell.node], rfl⟩
    · exact Spot.intro rfl rt rfl rfl rfl fun w =>
        ⟨rfl, by simp [Node.children, FuncDecl.children, Cell.node], rfl⟩
    · exact Spot.intro rfl name rfl rfl rfl fun w =>
        ⟨rfl, by simp [Node.children, FuncDecl.children, Cell.node], rfl⟩
    · exact Spot.intro rfl y rfl rfl rfl fun w =>
        ⟨rfl, by simp [Node.children, FuncDecl.children, Cell.node], rfl⟩
    · exact Spot.intro rfl sig rfl rfl rfl fun w =>
        ⟨rfl, by simp [Node.children, FuncDecl.children, Cell.node], rfl⟩
    · refine Spot.intro_nth hi (by delta Node.slot FuncDecl.slot; exact rfl) (by exact stmts[i])
        (by rfl) (by simp) (by rfl) fun w => ⟨by rfl, ?_, ?_⟩
      · simp [Node.children, FuncDecl.children, Cell.node]
      · delta Node.slot FuncDecl.slot
        simp [openNth_of_lt, hi]

/-- Every child the child table lists stands at a spot of the slot table. -/
theorem Node.spot_of_mem_children (N : Node) {pl : Place} {c : Node}
    (hc : (pl, c) ∈ N.children) : Spot N pl c := by
  cases N with
  | file f =>
    obtain ⟨doc, pp, name, decls, comments⟩ := f
    simp only [Node.children, List.mem_append, mem_one, mem_opt, mem_many, or_assoc] at hc
    rcases hc with ⟨g, rfl, rfl, rfl⟩ | ⟨rfl, rfl⟩ | ⟨i, hi, rfl, rfl⟩
    · exact Spot.intro rfl g rfl rfl rfl fun w =>
        ⟨rfl, by simp [Node.children, Cell.node], rfl⟩
    · exact Spot.intro rfl name rfl rfl rfl fun w =>
        ⟨rfl, by simp [Node.children, Cell.node], rfl⟩
    · refine Spot.intro_nth hi (by delta Node.slot; exact rfl) (by exact decls[i])
        (by rfl) (by simp) (by rfl) fun w => ⟨by rfl, ?_, ?_⟩
      · simp [Node.children, Cell.node]
      · delta Node.slot
        simp [openNth_of_lt, hi]
  | typeParams t =>
    obtain ⟨sp, lb, params, rb⟩ := t
    simp only [Node.children, mem_many] at hc
    obtain ⟨i, hi, rfl, rfl⟩ := hc
    refine Spot.intro_nth hi (by delta Node.slot; exact rfl) (by exact params[i])
      (by rfl) (by simp) (by rfl) fun w => ⟨by rfl, ?_, ?_⟩
    · simp [Node.children, Cell.node]
    · delta Node.slot
      simp [openNth_of_lt, hi]
  | typeParamDecl t =>
    obtain ⟨sp, names, cst⟩ := t
    simp only [Node.children, List.mem_append, mem_one, mem_many] at hc
    rcases hc with ⟨i, hi, rfl, rfl⟩ | ⟨rfl, rfl⟩
    · refine Spot.intro_nth hi (by delta Node.slot; exact rfl) (by exact names[i])
        (by rfl) (by simp) (by rfl) fun w => ⟨by rfl, ?_, ?_⟩
      · simp [Node.children, Cell.node]
      · delta Node.slot
        simp [openNth_of_lt, hi]
    · exact Spot.intro rfl cst rfl rfl rfl fun w =>
        ⟨rfl, by simp [Node.children, Cell.node], rfl⟩
  | commentGroup g =>
    obtain ⟨comments, sp⟩ := g
    simp only [Node.children, mem_many] at hc
    obtain ⟨i, hi, rfl, rfl⟩ := hc
    refine Spot.intro_nth hi (by delta Node.slot; exact rfl) (by exact comments[i])
      (by rfl) (by simp) (by rfl) fun w => ⟨by rfl, ?_, ?_⟩
    · simp [Node.children, Cell.node]
    · delta Node.slot
      simp [openNth_of_lt, hi]
  | comment | ident => simp [Node.children] at hc
  | genDecl d => exact d.spot hc
  | spec s => exact s.spot hc
  | funcDecl f => exact f.spot hc
  | signature s => exact s.spot hc
  | field f => exact f.spot hc
  | stmt s => exact s.spot hc
  | simpleStmt s => exact s.spot hc
  | switchClause cl => exact cl.spot hc
  | commClause cl => exact cl.spot hc
  | expr e => exact e.spot hc
  | keyedElement e => exact e.spot hc
  | type t => exact t.spot hc
  | interfaceElem e => exact e.spot hc

/-! ## Replacement at a spot -/

section replaceField

variable {N N' n : Node} {s : Slot} {index : Int} {h : Hole}

theorem Node.replaceField_of_store (hslot : N.slot s index = .ok h) (hn : h.store n = some N') :
    N.replaceField s index n = .ok N' := by
  simp [Node.replaceField, hslot, hn]

theorem Node.replaceField_of_store_eq_none (hslot : N.slot s index = .ok h)
    (hn : h.store n = none) :
    N.replaceField s index n = .error (.kindMismatch N.kind s n.kind) := by
  simp [Node.replaceField, hslot, hn]

/-- Two nodes of one kind whose place opens to the same hole agree on every replacement
there. -/
theorem Node.replaceField_congr (hslot : N.slot s index = .ok h)
    (hslot' : N'.slot s index = .ok h) (hkind : N'.kind = N.kind) :
    N'.replaceField s index n = N.replaceField s index n := by
  simp [Node.replaceField, hslot, hslot', hkind]

end replaceField

/-! ## No two children share a place -/

/-- A child list whose entries stand at pairwise different places. -/
abbrev Distinct (l : List (Place × Node)) : Prop := l.Pairwise fun a b => a.1 ≠ b.1

@[simp] theorem forall_mem_one {s : Slot} {c : Node} {P : Place → Node → Prop} :
    (∀ pl n, (pl, n) ∈ one s c → P pl n) ↔ P (.one s) c := by
  simp [one]

@[simp] theorem forall_mem_opt {α : Type} {s : Slot} {f : α → Node} {o : Option α}
    {P : Place → Node → Prop} :
    (∀ pl n, (pl, n) ∈ opt s f o → P pl n) ↔ ∀ x, o = some x → P (.one s) (f x) := by
  cases o <;> simp [one]

@[simp] theorem forall_mem_many {α : Type} {s : Slot} {f : α → Node} {xs : List α}
    {P : Place → Node → Prop} :
    (∀ pl n, (pl, n) ∈ many s f xs → P pl n) ↔ ∀ i (h : i < xs.length), P (.nth s i) (f xs[i]) := by
  simp only [mem_many]
  constructor
  · intro h i hi
    exact h _ _ ⟨i, hi, rfl, rfl⟩
  · rintro h _ _ ⟨i, hi, rfl, rfl⟩
    exact h i hi

@[simp] theorem distinct_one (s : Slot) (c : Node) : Distinct (one s c) := by
  simp [one]

@[simp] theorem distinct_opt {α : Type} (s : Slot) (f : α → Node) (o : Option α) :
    Distinct (opt s f o) := by
  cases o <;> simp [one]

@[simp] theorem distinct_many {α : Type} (s : Slot) (f : α → Node) (xs : List α) :
    Distinct (many s f xs) := by
  rw [Distinct, List.pairwise_iff_getElem]
  intro i j hi hj hij
  simp [many, Place.nth]
  omega

@[simp] theorem distinct_typeCases (k : Nat) (items : List TypeCase) :
    Distinct (typeCases k items) := by
  induction items generalizing k with
  | nil => simp [typeCases]
  | cons it items ih =>
    cases it with
    | type t =>
      refine List.pairwise_cons.mpr ⟨fun q hq => ?_, ih (k + 1)⟩
      obtain ⟨j, u, -, rfl⟩ := typeCases_entry hq
      simp [Place.nth]
      omega
    | nil p => exact ih (k + 1)

-- Each kind's child list is a run of pieces at different slots; records inside a node (a
-- block, a literal, a field list) are opened first so that the child table reduces.

theorem Expr.children_distinct (e : Expr) : Distinct e.children := by
  cases e with
  | funcLit _ _ _ b =>
    cases b
    simp [Expr.children, List.pairwise_append, Place.one, Place.nth]
  | compositeLit _ _ l =>
    cases l
    simp [Expr.children, List.pairwise_append, Place.one, Place.nth]
  | _ => simp [Expr.children, List.pairwise_append, or_imp, forall_and, Place.one, Place.nth]

theorem TypeExpr.children_distinct (t : TypeExpr) : Distinct t.children := by
  cases t with
  | array _ _ len => cases len <;> simp [TypeExpr.children, List.pairwise_append, Place.one]
  | struct _ _ fl => cases fl; simp [TypeExpr.children]
  | _ => simp [TypeExpr.children, List.pairwise_append, or_imp, forall_and, Place.one, Place.nth]

theorem Stmt.children_distinct (st : Stmt) : Distinct st.children := by
  cases st with
  | block _ b => cases b; simp [Stmt.children]
  | if_ _ _ _ _ b =>
    cases b
    simp [Stmt.children, List.pairwise_append, or_imp, forall_and, Place.one, Place.nth]
  | for_ _ _ hd b =>
    cases b
    rcases hd with _ | _ | _ | ⟨_ | ⟨_, _⟩ | ⟨_, _⟩, _, _⟩ <;>
      simp [Stmt.children, rangeLhs, List.pairwise_append, or_imp, forall_and, Place.one, Place.nth]
  | _ => simp [Stmt.children, List.pairwise_append, or_imp, forall_and, Place.one, Place.nth]

theorem SimpleStmt.children_distinct (st : SimpleStmt) : Distinct st.children := by
  cases st <;> simp [SimpleStmt.children, List.pairwise_append, Place.one, Place.nth]

theorem SwitchClause.children_distinct (cl : SwitchClause) : Distinct cl.children := by
  cases cl with
  | exprs => simp [SwitchClause.children, List.pairwise_append, Place.nth]
  | types sp cp items colon stmts =>
    -- type cases stand in the list slot, the body elsewhere
    refine List.pairwise_append.mpr ⟨distinct_typeCases 0 items, distinct_many _ _ _, ?_⟩
    rintro a ha ⟨pl, n⟩ hb
    obtain ⟨j, t, -, rfl⟩ := typeCases_entry ha
    obtain ⟨i, hi, rfl, rfl⟩ := mem_many.mp hb
    simp [Place.nth]

theorem CommClause.children_distinct (cl : CommClause) : Distinct cl.children := by
  cases cl with
  | recv _ _ lhs =>
    rcases lhs with _ | ⟨_, _⟩ | ⟨_, _⟩ <;>
      simp [CommClause.children, rangeLhs, List.pairwise_append, or_imp, forall_and, Place.one,
        Place.nth]
  | _ => simp [CommClause.children, List.pairwise_append, or_imp, forall_and, Place.one, Place.nth]

theorem KeyedElement.children_distinct (e : KeyedElement) : Distinct e.children := by
  obtain ⟨key, colon, value⟩ := e
  rcases key with _ | _ | ⟨_, _, _⟩ <;> rcases value with _ | ⟨_, _, _⟩ <;>
    simp [KeyedElement.children, element, List.pairwise_append, Place.one, Place.nth]

theorem InterfaceElem.children_distinct (e : InterfaceElem) : Distinct e.children := by
  cases e <;> simp [InterfaceElem.children, List.pairwise_append, Place.one]

theorem Signature.children_distinct (sig : Signature) : Distinct sig.children := by
  obtain ⟨sp, ⟨_, _, _⟩, results⟩ := sig
  rcases results with _ | ⟨⟨_, _, _⟩⟩ | _ <;>
    simp [Signature.children, List.pairwise_append, Place.one, Place.nth]

theorem Field.children_distinct (f : Field) : Distinct f.children := by
  obtain ⟨_, _, _, _, _, _, _⟩ := f
  simp [Field.children, List.pairwise_append, or_imp, forall_and, Place.one, Place.nth]

theorem Spec.children_distinct (spec : Spec) : Distinct spec.children := by
  cases spec with
  | import_ _ name =>
    rcases name with _ | _ | _ | _ <;>
      simp [Spec.children, List.pairwise_append, or_imp, forall_and, Place.one]
  | _ => simp [Spec.children, List.pairwise_append, or_imp, forall_and, Place.one, Place.nth]

theorem FuncDecl.children_distinct (f : FuncDecl) : Distinct f.children := by
  obtain ⟨sp, doc, fp, recv, name, tps, sig, body⟩ := f
  rcases recv with _ | ⟨_, _, _, _⟩ <;> rcases body with _ | ⟨_, _, _⟩ <;>
    simp [FuncDecl.children, List.pairwise_append, or_imp, forall_and, Place.one, Place.nth]

/-- No two children of a node stand at one place. -/
theorem Node.children_distinct (N : Node) : Distinct N.children := by
  cases N with
  | file f =>
    simp [Node.children, List.pairwise_append, or_imp, forall_and, Place.one, Place.nth]
  | genDecl d =>
    simp [Node.children, GenDecl.children, List.pairwise_append, Place.one, Place.nth]
  | typeParams t => simp [Node.children]
  | typeParamDecl t => simp [Node.children, List.pairwise_append, Place.one, Place.nth]
  | commentGroup g => simp [Node.children]
  | comment | ident => simp [Node.children]
  | spec s => exact s.children_distinct
  | funcDecl f => exact f.children_distinct
  | signature s => exact s.children_distinct
  | field f => exact f.children_distinct
  | stmt s => exact s.children_distinct
  | simpleStmt s => exact s.children_distinct
  | switchClause cl => exact cl.children_distinct
  | commClause cl => exact cl.children_distinct
  | expr e => exact e.children_distinct
  | keyedElement e => exact e.children_distinct
  | type t => exact t.children_distinct
  | interfaceElem e => exact e.children_distinct

/-- In a child list whose places are distinct, putting a node at the place of entry `k` sets
that entry alone. -/
theorem map_put_eq_set {l : List (Place × Node)} (hl : Distinct l) {k : Nat} {pl : Place}
    {c c' : Node} (hk : l[k]? = some (pl, c)) : l.map (pl.put c') = l.set k (pl, c') := by
  obtain ⟨hk, hlk⟩ := List.getElem?_eq_some_iff.mp hk
  have hne : ∀ j (hj : j < l.length), j ≠ k → l[j].1 ≠ pl := by
    intro j hj hjk he
    rcases Nat.lt_or_gt_of_ne hjk with h | h
    · exact List.pairwise_iff_getElem.mp hl j k hj hk h (by rw [hlk]; exact he)
    · exact List.pairwise_iff_getElem.mp hl k j hk hj h (by rw [hlk]; exact he.symm)
  apply List.ext_getElem
  · simp
  · intro j h₁ h₂
    simp only [List.getElem_map, List.getElem_set, Place.put]
    by_cases hjk : k = j
    · subst hjk
      simp [hlk]
    · rw [if_neg hjk, if_neg (hne j (by simpa using h₂) (Ne.symm hjk))]

/-- Replacing a child in its place, for the child at every position of the child table.
Putting the child back gives the node unchanged. Putting a node of a kind the place accepts
succeeds and gives a node of the same kind whose child table is the old one with that entry
alone changed, and which agrees with the original on every later replacement at that place:
nothing but the place has changed. Putting a node of any other kind fails with a kind
mismatch. -/
theorem Node.replaceField_child (N : Node) {k : Nat} {pl : Place} {c : Node}
    (hk : N.children[k]? = some (pl, c)) :
    N.replaceField pl.slot pl.index c = .ok N ∧
    ∀ c' : Node,
      (c'.kind ∈ N.kind.placeKinds pl.slot c.kind →
        ∃ N', N.replaceField pl.slot pl.index c' = .ok N' ∧ N'.kind = N.kind ∧
          N'.children = N.children.set k (pl, c') ∧
          ∀ c'', N'.replaceField pl.slot pl.index c'' = N.replaceField pl.slot pl.index c'') ∧
      (c'.kind ∉ N.kind.placeKinds pl.slot c.kind →
        N.replaceField pl.slot pl.index c' = .error (.kindMismatch N.kind pl.slot c'.kind)) := by
  obtain ⟨h, hslot, hstore, hkinds, hput⟩ := N.spot_of_mem_children (List.mem_of_getElem? hk)
  refine ⟨Node.replaceField_of_store hslot hstore, fun c' => ⟨fun hc' => ?_, fun hc' => ?_⟩⟩
  · -- the place accepts `c'`: the cell takes it as a value `v`, and the hole filled with `v`
    -- is the new node
    rw [← hkinds, ← Cell.accept_isSome_iff, Option.isSome_iff_exists] at hc'
    obtain ⟨v, hv⟩ := hc'
    obtain ⟨hkind, hchildren, hslot'⟩ := hput v
    refine ⟨h.fill v, Node.replaceField_of_store hslot (by simp [Hole.store, hv]), hkind,
      ?_, fun c'' => Node.replaceField_congr hslot hslot' hkind⟩
    rw [hchildren, Cell.node_of_accept hv, map_put_eq_set N.children_distinct hk]
  · rw [← hkinds, ← Cell.accept_isSome_iff, Option.not_isSome_iff_eq_none] at hc'
    exact Node.replaceField_of_store_eq_none hslot (by simp [Hole.store, hc'])

/-- In `make(n)`, the argument's place takes the type `int`, which changes that entry of the
child table alone. -/
theorem replaceField_call_arg_by_type :
    let make : Expr := .ident default ⟨"make", default⟩
    let n : Expr := .ident default ⟨"n", default⟩
    let int : TypeExpr := .named default none ⟨"int", default⟩ none [] none
    let call : Node := .expr (.call default (.expr make) default [.expr n] none default)
    call.children[1]? = some (.nth .args 0, .expr n) ∧
      ∃ N', call.replaceField .args 0 (.type int) = .ok N' ∧
        N'.children = [(.one .fun_, .expr make), (.nth .args 0, .type int)] := by
  intro make n int call
  have hk : call.children[1]? = some (.nth .args 0, .expr n) := rfl
  obtain ⟨N', hN', -, hchildren, -⟩ :=
    ((Node.replaceField_child call hk).2 (.type int)).1 (by decide)
  exact ⟨hk, N', hN', hchildren.trans rfl⟩

end GoTemplates.Syntax
