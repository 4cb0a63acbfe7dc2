import GoTemplates.Proofs.Specialize.ClosureRun

/-! # The closure stops by itself

The closure repeats passes over the table until one of them adds nothing, and adding a
method goes on to its receiver's entry. Both are bounded in the model by a step count,
the size of the table plus one, and neither bound is ever what stops them.

A pass never forgets that a key was seen, and a pass that reports a change has seen the
key of an entry it had not seen before. So the number of unseen entries falls with every
pass that changes something, and the passes stop, after at most that many, at a pass
that changes nothing (`collectDependants_stops`). Adding a dependant sees the entry it
is called on before it goes to the receiver's entry, and goes there only when that is
unseen, so each call sees one more entry and any bound at least the number of unseen
entries gives the same result (`addDependant_fuel_eq`).
-/

namespace GoTemplates.Specialize

open GoTemplates.Syntax

variable {b : Bindings} {t : DeclTable}

/-- The state after `n` passes of the closure. -/
def afterPasses (b : Bindings) (t : DeclTable) : Nat → Retention → Retention
  | 0, ctx => ctx
  | n + 1, ctx => afterPasses b t n (closurePass b t ctx).1

@[simp] theorem afterPasses_zero (ctx : Retention) : afterPasses b t 0 ctx = ctx := rfl

theorem afterPasses_succ (n : Nat) (ctx : Retention) :
    afterPasses b t (n + 1) ctx = afterPasses b t n (closurePass b t ctx).1 := rfl

/-! ## One pass -/

/-- An unseen entry in `ctx` that `ctx'` has seen. -/
def SeesNewEntry (t : DeclTable) (ctx ctx' : Retention) : Prop :=
  ∃ (i : Nat) (e : TableEntry), t.entries[i]? = some e ∧ ctx.isVisited e.key = false ∧
    ctx'.isVisited e.key = true

theorem SeesNewEntry.mono {ctx ctx' ctx'' : Retention} (h : SeesNewEntry t ctx ctx')
    (hmono : ∀ k, ctx'.isVisited k = true → ctx''.isVisited k = true) :
    SeesNewEntry t ctx ctx'' :=
  let ⟨i, e, he, hold, hnew⟩ := h
  ⟨i, e, he, hold, hmono _ hnew⟩

/-- Seeing a new entry lowers the count of unseen entries, when nothing seen is forgotten. -/
theorem SeesNewEntry.unseen_lt {ctx ctx' : Retention} (h : SeesNewEntry t ctx ctx')
    (hmono : ∀ k, ctx.isVisited k = true → ctx'.isVisited k = true) :
    unseen t ctx' < unseen t ctx :=
  let ⟨_, _, he, hold, hnew⟩ := h
  Specialize.unseen_lt hmono he hold hnew

/-- Pass steps over any indices forget no seen key; they report a change they did not
start with only after seeing a new entry, and report none only when nothing changed. -/
theorem passStep_fold_seen (l : List Nat) :
    ∀ (ctx : Retention) (changed : Bool),
      let res := l.foldl (passStep b t) (ctx, changed)
      (∀ k, ctx.isVisited k = true → res.1.isVisited k = true) ∧
        (res.2 = true → changed = true ∨ SeesNewEntry t ctx res.1) ∧
        (res.2 = false → changed = false ∧ res.1 = ctx) := by
  induction l with
  | nil => intro ctx changed; exact ⟨fun _ h => h, .inl, fun h => ⟨h, rfl⟩⟩
  | cons idx l ih =>
    intro ctx changed
    simp only [List.foldl_cons]
    cases he : t.entries[idx]? with
    | none =>
      have hstep : passStep b t (ctx, changed) idx = (ctx, changed) := by simp [passStep, he]
      rw [hstep]
      exact ih ctx changed
    | some e =>
      by_cases hskip : (ctx.isVisited e.key || !isDependant b t ctx e) = true
      · have hstep : passStep b t (ctx, changed) idx = (ctx, changed) := by
          simp [passStep, he, hskip]
        rw [hstep]
        exact ih ctx changed
      · -- the entry is an unseen dependant, and adding it sees its key
        have hunseen : ctx.isVisited e.key = false := by simp_all
        have hstep : passStep b t (ctx, changed) idx =
            (addDependant b t (t.entries.size + 1) ctx idx, true) := by
          simp only [passStep, he]
          rw [if_neg hskip]
        rw [hstep]
        have hmono : ∀ k, ctx.isVisited k = true →
            (addDependant b t (t.entries.size + 1) ctx idx).isVisited k = true :=
          fun _ hk => addDependant_seen_mono hk
        have hnew : SeesNewEntry t ctx (addDependant b t (t.entries.size + 1) ctx idx) :=
          ⟨idx, e, he, hunseen, addDependant_succ_seen he⟩
        obtain ⟨hrest, -, hfalse⟩ := ih (addDependant b t (t.entries.size + 1) ctx idx) true
        refine ⟨fun k hk => hrest k (hmono k hk), fun _ => .inr (hnew.mono hrest), ?_⟩
        -- a run that started with a change still reports one
        exact fun hres => Bool.noConfusion (hfalse hres).1

/-- A pass forgets no seen key. -/
theorem closurePass_seen_mono {ctx : Retention} {k : Nat} (hk : ctx.isVisited k = true) :
    (closurePass b t ctx).1.isVisited k = true := by
  rw [closurePass_eq]
  exact (passStep_fold_seen _ ctx false).1 k hk

/-- A pass that reports a change has seen a new entry. -/
theorem closurePass_sees_new {ctx : Retention} (h : (closurePass b t ctx).2 = true) :
    SeesNewEntry t ctx (closurePass b t ctx).1 := by
  rw [closurePass_eq] at h ⊢
  exact ((passStep_fold_seen _ ctx false).2.1 h).resolve_left Bool.false_ne_true

/-- A pass that reports no change leaves the state as it was. -/
theorem closurePass_unchanged {ctx : Retention} (h : (closurePass b t ctx).2 = false) :
    (closurePass b t ctx).1 = ctx := by
  rw [closurePass_eq] at h ⊢
  exact ((passStep_fold_seen _ ctx false).2.2 h).2

theorem closurePass_unseen_lt {ctx : Retention} (h : (closurePass b t ctx).2 = true) :
    unseen t (closurePass b t ctx).1 < unseen t ctx :=
  (closurePass_sees_new h).unseen_lt fun _ => closurePass_seen_mono

/-! ## The passes -/

/-- The passes stop: after at most as many passes as there are unseen entries, a pass
changes nothing, every pass before it changed something, and every bound on the number
of passes above that count gives the state that pass left. -/
theorem closeOver_stops (ctx : Retention) :
    ∃ n ≤ unseen t ctx, (∀ m < n, (closurePass b t (afterPasses b t m ctx)).2 = true) ∧
      (closurePass b t (afterPasses b t n ctx)).2 = false ∧
      ∀ fuel, n < fuel → closeOver b t fuel ctx = afterPasses b t n ctx := by
  -- on the count of unseen entries, which every changing pass lowers
  induction hcount : unseen t ctx using Nat.strongRecOn generalizing ctx with
  | _ count ih =>
    rcases hpass : closurePass b t ctx with ⟨ctx', changed⟩
    cases changed with
    | false =>
      have hsame : ctx' = ctx := by
        simpa [hpass] using @closurePass_unchanged b t ctx (by simp [hpass])
      subst hsame
      refine ⟨0, Nat.zero_le _, fun m hm => absurd hm (Nat.not_lt_zero m), by simp [hpass], ?_⟩
      intro fuel hfuel
      obtain ⟨fuel, rfl⟩ := Nat.exists_eq_add_of_lt hfuel
      simp [closeOver, hpass]
    | true =>
      have hlt : unseen t ctx' < count := by
        simpa [hpass, hcount] using @closurePass_unseen_lt b t ctx
          (by simp [hpass])
      obtain ⟨n, hn, hbefore, hlast, hfuel⟩ := ih _ hlt ctx' rfl
      have hnext : (closurePass b t ctx).1 = ctx' := by simp [hpass]
      refine ⟨n + 1, by omega, fun m hm => ?_, by rwa [afterPasses_succ, hnext], ?_⟩
      · cases m with
        | zero => simp [hpass]
        | succ m => rw [afterPasses_succ, hnext]; exact hbefore m (by omega)
      · intro fuel hf
        obtain ⟨fuel, rfl⟩ : ∃ f, fuel = f + 1 := ⟨fuel - 1, by omega⟩
        simp only [closeOver, hpass, if_true, afterPasses_succ]
        exact hfuel fuel (by omega)

/-! ## Adding a dependant -/

/-- Adding an unseen entry gives the same state under every bound at least the number of
unseen entries: each call sees one more entry before it goes to the receiver's. -/
theorem addDependant_fuel_eq {ctx : Retention} {idx : Nat} {e : TableEntry}
    (he : t.entries[idx]? = some e) (hnew : ctx.isVisited e.key = false) {f₁ f₂ : Nat}
    (h₁ : unseen t ctx ≤ f₁) (h₂ : unseen t ctx ≤ f₂) :
    addDependant b t f₁ ctx idx = addDependant b t f₂ ctx idx := by
  induction f₁ generalizing ctx idx e f₂ with
  | zero =>
    have hpos : 0 < unseen t ctx :=
      List.countP_pos_iff.mpr ⟨e, List.mem_of_getElem? (by simpa using he), by simp [hnew]⟩
    omega
  | succ f₁ ih =>
    obtain ⟨f₂, rfl⟩ : ∃ f, f₂ = f + 1 := by
      have hpos : 0 < unseen t ctx :=
        List.countP_pos_iff.mpr ⟨e, List.mem_of_getElem? (by simpa using he), by simp [hnew]⟩
      exact ⟨f₂ - 1, by omega⟩
    rcases addDependant_succ_cases (b := b) ctx f₁ he with
      ⟨hm, heq⟩ | ⟨hm, heq, hall⟩ | ⟨hm, o, eo, howner, heo, hunseen, heq⟩
    · rcases addDependant_succ_cases (b := b) ctx f₂ he with
        ⟨-, heq'⟩ | ⟨hm', -⟩ | ⟨hm', -⟩
      · rw [heq, heq']
      · exact absurd hm' hm
      · exact absurd hm' hm
    · rcases addDependant_succ_cases (b := b) ctx f₂ he with
        ⟨hm', -⟩ | ⟨-, heq', -⟩ | ⟨-, o', eo', howner', heo', hunseen', -⟩
      · exact absurd hm hm'
      · rw [heq, heq']
      · exact absurd (hall o' howner' eo' heo') (by simp [hunseen'])
    · -- the recursive call sees the method first, so the count has fallen
      have hretained : (ctx.retain e.key .func).isVisited e.key = true := by simp
      have hlt : unseen t (ctx.retain e.key .func) < unseen t ctx :=
        Specialize.unseen_lt (fun k hk => by simp [hk]) he hnew hretained
      rcases addDependant_succ_cases (b := b) ctx f₂ he with
        ⟨hm', -⟩ | ⟨-, -, hall⟩ | ⟨-, o', eo', howner', heo', -, heq'⟩
      · exact absurd hm hm'
      · exact absurd (hall o howner eo heo) (by simp [hunseen])
      · have ho : o' = o := Option.some.inj (howner'.symm.trans howner)
        subst ho
        rw [heq, heq']
        exact ih heo hunseen (by omega) (by omega)


/-! ## The closure -/

/-- The closure stops by itself. A pass forgets no seen key, and a pass that reports a
change has seen a new entry, so the count of unseen entries falls. Adding an unseen entry
gives the same state under every bound at least that count, the one the closure uses
included. The passes end after at most that many, at a pass that changes nothing, every
earlier pass having changed something, and the closure is the state that pass leaves. -/
theorem collectDependants_stops (ctx : Retention) :
    (∀ c : Retention, (∀ k, c.isVisited k = true → (closurePass b t c).1.isVisited k = true) ∧
      ((closurePass b t c).2 = true →
        SeesNewEntry t c (closurePass b t c).1 ∧ unseen t (closurePass b t c).1 < unseen t c)) ∧
    (∀ (c : Retention) (idx : Nat) (e : TableEntry), t.entries[idx]? = some e →
      c.isVisited e.key = false → ∀ fuel, unseen t c ≤ fuel →
        addDependant b t fuel c idx = addDependant b t (t.entries.size + 1) c idx) ∧
    ∃ n ≤ unseen t ctx, (∀ m < n, (closurePass b t (afterPasses b t m ctx)).2 = true) ∧
      (closurePass b t (afterPasses b t n ctx)).2 = false ∧
      collectDependants b t ctx = afterPasses b t n ctx := by
  refine ⟨fun c => ⟨fun _ => closurePass_seen_mono, fun h =>
    ⟨closurePass_sees_new h, closurePass_unseen_lt h⟩⟩, ?_, ?_⟩
  · intro c idx e he hnew fuel hfuel
    exact addDependant_fuel_eq he hnew hfuel (Nat.le_succ_of_le (unseen_le_size c))
  · obtain ⟨n, hn, hbefore, hlast, hfuel⟩ := closeOver_stops (b := b) (t := t) ctx
    have hbound : n < t.entries.size + 1 := Nat.lt_succ_of_le (Nat.le_trans hn (unseen_le_size ctx))
    exact ⟨n, hn, hbefore, hlast, hfuel _ hbound⟩

end GoTemplates.Specialize
