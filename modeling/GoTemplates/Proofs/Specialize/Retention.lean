import GoTemplates.Specialize.Context

/-! # What each operation does to the state of a run

Each operation on the state of a specialization run is described through the
observations the closure makes: which declarations are retained, seen and
placeholders, what a declaration is renamed to, and the replacer. Retaining
marks a declaration retained and seen; renaming the names of a retained
declaration writes renames only, all through the replacer of the moment;
registering a placeholder adds it everywhere; pruning takes exactly the
placeholders out of the retained declarations. Later proofs read the state
only through these lemmas.
-/

namespace GoTemplates.Specialize.Retention

variable (ctx : Retention) (key k : Nat) (kind : DeclKind)

/-! ## The empty state -/

@[simp] theorem isRetained_empty : ({} : Retention).isRetained k = false :=
  Std.TreeMap.contains_emptyc

@[simp] theorem isVisited_empty : ({} : Retention).isVisited k = false :=
  Std.TreeSet.contains_emptyc

@[simp] theorem isPlaceholder_empty : ({} : Retention).isPlaceholder k = false :=
  Std.TreeSet.contains_emptyc

@[simp] theorem renameOf_empty : ({} : Retention).renameOf k = none :=
  Std.TreeMap.getElem?_emptyc

/-! ## Retaining -/

@[simp] theorem isRetained_retain :
    (ctx.retain key kind).isRetained k = true ↔ k = key ∨ ctx.isRetained k = true := by
  simp only [retain, isRetained, Std.TreeMap.contains_insert,
    beq_iff_eq, Nat.compare_eq_eq, Bool.or_eq_true]
  exact or_congr_left eq_comm

@[simp] theorem isVisited_retain :
    (ctx.retain key kind).isVisited k = true ↔ k = key ∨ ctx.isVisited k = true := by
  simp only [retain, isVisited, Std.TreeSet.contains_insert,
    beq_iff_eq, Nat.compare_eq_eq, Bool.or_eq_true]
  exact or_congr_left eq_comm

@[simp] theorem isPlaceholder_retain :
    (ctx.retain key kind).isPlaceholder k = ctx.isPlaceholder k := rfl

@[simp] theorem renameOf_retain : (ctx.retain key kind).renameOf k = ctx.renameOf k := rfl

@[simp] theorem replacer_retain : (ctx.retain key kind).replacer = ctx.replacer := rfl

/-! ## Retaining with renamed names

The replacer does not change while the names are renamed, so the whole
operation is a retain followed by one insertion per name. -/

/-- Inserting each name's replacement into a rename table, in order. -/
def renameAll (replacer : GoTemplates.Text.Replacer) (names : List (Nat × String))
    (renames : Std.TreeMap Nat Replacement) : Std.TreeMap Nat Replacement :=
  names.foldl (fun m p => m.insert p.1 (.ident (replacer.apply p.2))) renames

theorem retainRenamed_eq (names : List (Nat × String)) :
    ctx.retainRenamed key kind names =
      { ctx.retain key kind with renames := renameAll ctx.replacer names ctx.renames } := by
  -- the fold carries the whole state, but changes only its renames
  have hfold : ∀ (c : Retention) (ns : List (Nat × String)),
      ns.foldl (fun c p =>
        { c with renames := c.renames.insert p.1 (.ident (c.replacer.apply p.2)) }) c =
        { c with renames := renameAll c.replacer ns c.renames } := by
    intro c ns
    induction ns generalizing c with
    | nil => rfl
    | cons p ps ih => exact ih _
  exact hfold (ctx.retain key kind) names

theorem renameAll_of_not_mem (replacer : GoTemplates.Text.Replacer)
    (names : List (Nat × String)) (renames : Std.TreeMap Nat Replacement)
    (hk : ∀ p ∈ names, p.1 ≠ k) : (renameAll replacer names renames)[k]? = renames[k]? := by
  induction names generalizing renames with
  | nil => rfl
  | cons p ps ih =>
      have hp : p.1 ≠ k := hk p List.mem_cons_self
      simp only [renameAll, List.foldl_cons] at ih ⊢
      rw [ih _ (fun q hq => hk q (List.mem_cons_of_mem _ hq)), Std.TreeMap.getElem?_insert]
      simp [hp]

theorem renameAll_of_mem (replacer : GoTemplates.Text.Replacer)
    (names : List (Nat × String)) (renames : Std.TreeMap Nat Replacement) {n : String}
    (hnodup : (names.map Prod.fst).Nodup) (hmem : (k, n) ∈ names) :
    (renameAll replacer names renames)[k]? = some (.ident (replacer.apply n)) := by
  induction names generalizing renames with
  | nil => simp at hmem
  | cons p ps ih =>
      simp only [List.map_cons, List.nodup_cons, List.mem_map] at hnodup
      obtain ⟨hfresh, hrest⟩ := hnodup
      simp only [renameAll, List.foldl_cons] at ih ⊢
      rcases List.mem_cons.mp hmem with rfl | htail
      · have hk : ∀ q ∈ ps, q.1 ≠ k := fun q hq hq1 => hfresh ⟨q, hq, hq1⟩
        rw [← renameAll, renameAll_of_not_mem k replacer ps _ hk]
        simp
      · exact ih _ hrest htail

@[simp] theorem isRetained_retainRenamed (names : List (Nat × String)) :
    (ctx.retainRenamed key kind names).isRetained k = (ctx.retain key kind).isRetained k := by
  rw [retainRenamed_eq]
  rfl

@[simp] theorem isVisited_retainRenamed (names : List (Nat × String)) :
    (ctx.retainRenamed key kind names).isVisited k = (ctx.retain key kind).isVisited k := by
  rw [retainRenamed_eq]
  rfl

@[simp] theorem isPlaceholder_retainRenamed (names : List (Nat × String)) :
    (ctx.retainRenamed key kind names).isPlaceholder k = ctx.isPlaceholder k := by
  rw [retainRenamed_eq]
  rfl

@[simp] theorem replacer_retainRenamed (names : List (Nat × String)) :
    (ctx.retainRenamed key kind names).replacer = ctx.replacer := by
  rw [retainRenamed_eq]
  rfl

theorem renameOf_retainRenamed (names : List (Nat × String)) :
    (ctx.retainRenamed key kind names).renameOf k =
      (renameAll ctx.replacer names ctx.renames)[k]? := by
  rw [retainRenamed_eq]
  rfl

/-! ## Registering a placeholder -/

variable (placeholder : String) (r : Replacement)

@[simp] theorem isRetained_addPlaceholder :
    (ctx.addPlaceholder key placeholder r).isRetained k = true ↔
      k = key ∨ ctx.isRetained k = true := by
  simp only [addPlaceholder, isRetained, Std.TreeMap.contains_insert,
    beq_iff_eq, Nat.compare_eq_eq, Bool.or_eq_true]
  exact or_congr_left eq_comm

@[simp] theorem isVisited_addPlaceholder :
    (ctx.addPlaceholder key placeholder r).isVisited k = true ↔
      k = key ∨ ctx.isVisited k = true := by
  simp only [addPlaceholder, isVisited, Std.TreeSet.contains_insert,
    beq_iff_eq, Nat.compare_eq_eq, Bool.or_eq_true]
  exact or_congr_left eq_comm

@[simp] theorem isPlaceholder_addPlaceholder :
    (ctx.addPlaceholder key placeholder r).isPlaceholder k = true ↔
      k = key ∨ ctx.isPlaceholder k = true := by
  simp only [addPlaceholder, isPlaceholder, Std.TreeSet.contains_insert,
    beq_iff_eq, Nat.compare_eq_eq, Bool.or_eq_true]
  exact or_congr_left eq_comm

@[simp] theorem renameOf_addPlaceholder :
    (ctx.addPlaceholder key placeholder r).renameOf k =
      if k = key then some r else ctx.renameOf k := by
  simp only [addPlaceholder, renameOf, Std.TreeMap.getElem?_insert, Nat.compare_eq_eq]
  grind

/-! ## Pruning the placeholders -/

@[simp] theorem isRetained_prunePlaceholders :
    ctx.prunePlaceholders.isRetained k = true ↔
      ctx.isRetained k = true ∧ ctx.isPlaceholder k = false := by
  simp [prunePlaceholders, isRetained, isPlaceholder, Std.TreeMap.mem_filter]

@[simp] theorem isPlaceholder_prunePlaceholders :
    ctx.prunePlaceholders.isPlaceholder k = ctx.isPlaceholder k := rfl

@[simp] theorem renameOf_prunePlaceholders :
    ctx.prunePlaceholders.renameOf k = ctx.renameOf k := rfl

end GoTemplates.Specialize.Retention
