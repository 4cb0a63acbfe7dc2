import GoTemplates.Proofs.Specialize.Dependants

/-! # The closure run reaches the least set

The run keeps an invariant: seen and retained agree, the placeholders are the
registered ones and stay retained, every retained key is the key of an entry
that `Retains`, every retained entry other than a method or a placeholder has
its names renamed through the replacer, and renames are only written for
placeholders and for names of entries that are not methods. Separately, the
receiver of every retained method is retained once a dependant has been
added, which is what the recursion of `addDependant` is for.

Each changing pass marks at least one entry seen, so the number of unseen
entries bounds the passes and the depth of the receiver recursion; the fuel
the closure is given always suffices. A pass that changes nothing leaves
every entry seen or not a dependant, which with the invariant makes the
retained entries exactly the least closed set.
-/

namespace GoTemplates.Specialize

open GoTemplates.Syntax GoTemplates.Text

section Invariant

variable (b : Bindings) (t : DeclTable) (reps : List (String × Replacement))

/-- What holds of the state between the closure's steps; `R` is the replacer of the
registered placeholders. -/
structure Invariant (R : Replacer) (ctx : Retention) : Prop where
  visited : ∀ k, ctx.isVisited k = ctx.isRetained k
  placeholder : ∀ k, ctx.isPlaceholder k = true ↔ t.IsPlaceholderKey reps k
  placeholder_retained : ∀ k, t.IsPlaceholderKey reps k → ctx.isRetained k = true
  sound : ∀ k, ctx.isRetained k = true →
    ∃ (i : Nat) (e : TableEntry), t.entries[i]? = some e ∧ e.key = k ∧ Retains b t reps i
  renamed : ∀ {i : Nat} {e : TableEntry}, t.entries[i]? = some e → ctx.isRetained e.key = true →
    ¬ e.IsMethod → ¬ e.IsPlaceholder reps →
    ∀ n ∈ e.names, ctx.renameOf n.pos.start = some (.ident (R.apply n.name))
  renames_only : ∀ k, ctx.renameOf k ≠ none → t.IsPlaceholderKey reps k ∨
    ∃ (i : Nat) (e : TableEntry), t.entries[i]? = some e ∧ ¬ e.IsMethod ∧ k ∈ e.positions
  replacer : ctx.replacer = R

/-- The receiver entry of every retained method is retained, except perhaps for the
methods that `pending` allows. -/
def ReceiversRetained (pending : Nat → Prop) (ctx : Retention) : Prop :=
  ∀ ⦃i o : Nat⦄ ⦃e : TableEntry⦄, t.entries[i]? = some e → e.kind = .func →
    ctx.isRetained e.key = true → receiverOwner b t e = some o →
    pending i ∨ ∃ e', t.entries[o]? = some e' ∧ ctx.isRetained e'.key = true

/-- The number of entries whose key the closure has not seen. -/
def unseen (ctx : Retention) : Nat := t.entries.toList.countP fun e => !ctx.isVisited e.key

end Invariant

variable {b : Bindings} {t : DeclTable} {reps : List (String × Replacement)}

/-! ## The measure -/

private theorem countP_lt_of_mono {α : Type} {p q : α → Bool} {l : List α}
    (hmono : ∀ x ∈ l, p x = true → q x = true) (hx : ∃ x ∈ l, q x = true ∧ p x = false) :
    l.countP p < l.countP q := by
  induction l with
  | nil => simp at hx
  | cons a l ih =>
      have hle := List.countP_mono_left fun x hx => hmono x (List.mem_cons_of_mem a hx)
      simp only [List.countP_cons]
      rcases hx with ⟨x, hx, hqx, hpx⟩
      rcases List.mem_cons.mp hx with rfl | hx
      · rw [if_pos hqx, if_neg (by simp [hpx])]
        omega
      · have hlt := ih (fun y hy => hmono y (List.mem_cons_of_mem a hy)) ⟨x, hx, hqx, hpx⟩
        have hhead := hmono a List.mem_cons_self
        by_cases hpa : p a = true
        · simp [hpa, hhead hpa]
          omega
        · simp only [Bool.not_eq_true] at hpa
          simp only [hpa, Bool.false_eq_true, if_false, Nat.add_zero]
          split <;> omega

theorem unseen_le_size (ctx : Retention) : unseen t ctx ≤ t.entries.size := by
  simpa [unseen] using List.countP_le_length (l := t.entries.toList)

theorem unseen_le {ctx ctx' : Retention}
    (hseen : ∀ k, ctx.isVisited k = true → ctx'.isVisited k = true) :
    unseen t ctx' ≤ unseen t ctx := by
  apply List.countP_mono_left
  intro e _ h
  cases hv : ctx.isVisited e.key
  · rfl
  · simp [hseen _ hv] at h

/-- Seeing the key of an unseen entry lowers the count. -/
theorem unseen_lt {ctx ctx' : Retention} {i : Nat} {e : TableEntry}
    (hseen : ∀ k, ctx.isVisited k = true → ctx'.isVisited k = true)
    (he : t.entries[i]? = some e) (hold : ctx.isVisited e.key = false)
    (hnew : ctx'.isVisited e.key = true) : unseen t ctx' < unseen t ctx := by
  apply countP_lt_of_mono
  · intro x _ h
    cases hv : ctx.isVisited x.key
    · rfl
    · simp [hseen _ hv] at h
  · exact ⟨e, List.mem_of_getElem? (by simpa using he), by simp [hold], by simp [hnew]⟩

/-! ## One call of `addDependant` -/

/-- What one call of `addDependant` does with an entry: rename it if it is not a
method; otherwise retain it and go on to its receiver entry when that is unseen. -/
theorem addDependant_succ_cases (ctx : Retention) (fuel : Nat) {idx : Nat} {e : TableEntry}
    (he : t.entries[idx]? = some e) :
    (¬ e.IsMethod ∧ addDependant b t (fuel + 1) ctx idx =
        ctx.retainRenamed e.key e.kind (e.names.map fun n => (n.pos.start, n.name))) ∨
      (e.IsMethod ∧ addDependant b t (fuel + 1) ctx idx = ctx.retain e.key .func ∧
        ∀ o, receiverOwner b t e = some o →
          ∀ eo, t.entries[o]? = some eo → (ctx.retain e.key .func).isVisited eo.key = true) ∨
      (e.IsMethod ∧ ∃ o eo, receiverOwner b t e = some o ∧ t.entries[o]? = some eo ∧
        (ctx.retain e.key .func).isVisited eo.key = false ∧
        addDependant b t (fuel + 1) ctx idx = addDependant b t fuel (ctx.retain e.key .func) o) := by
  unfold TableEntry.IsMethod
  cases hkind : e.kind <;> cases hrecv : e.receiver <;>
    simp only [addDependant, he, hkind, hrecv, reduceCtorEq, false_and, not_false_eq_true,
      true_and, Option.isSome_none, Option.isSome_some, Bool.false_eq_true, and_false] <;>
    try (left; trivial)
  rename_i recv
  right
  unfold receiverOwner
  simp only [hrecv, Option.bind_some]
  cases howner : (b.lookup recv.pos).bind (fun bd => t.owner bd.key) with
  | none => exact .inl ⟨by simp, by simp⟩
  | some o =>
      cases hentry : t.entries[o]? with
      | none => exact .inl ⟨by simp [DeclTable.keyAt, hentry], by simp [hentry]⟩
      | some eo =>
          by_cases hseen : (ctx.retain e.key .func).isVisited eo.key = true
          · refine .inl ⟨by simp [DeclTable.keyAt, hentry, hseen], ?_⟩
            intro o' ho' eo' he'
            obtain rfl := Option.some.inj ho'
            rw [hentry, Option.some.injEq] at he'
            exact he' ▸ hseen
          · simp only [Bool.not_eq_true] at hseen
            exact .inr ⟨o, eo, rfl, hentry, hseen, by simp [DeclTable.keyAt, hentry, hseen]⟩

/-- `addDependant` only ever adds to what is seen. -/
theorem addDependant_seen_mono {ctx : Retention} {idx fuel k : Nat}
    (hk : ctx.isVisited k = true) : (addDependant b t fuel ctx idx).isVisited k = true := by
  induction fuel generalizing ctx idx with
  | zero => exact hk
  | succ fuel ih =>
      cases he : t.entries[idx]? with
      | none => simpa [addDependant, he] using hk
      | some e =>
          rcases addDependant_succ_cases ctx fuel he with
            ⟨-, heq⟩ | ⟨-, heq, -⟩ | ⟨-, o, eo, -, -, -, heq⟩ <;> rw [heq]
          · simp [hk]
          · simp [hk]
          · exact ih (by simp [hk])

/-- `addDependant` only ever adds to what is retained. -/
theorem addDependant_retained_mono {ctx : Retention} {idx fuel k : Nat}
    (hk : ctx.isRetained k = true) : (addDependant b t fuel ctx idx).isRetained k = true := by
  induction fuel generalizing ctx idx with
  | zero => exact hk
  | succ fuel ih =>
      cases he : t.entries[idx]? with
      | none => simpa [addDependant, he] using hk
      | some e =>
          rcases addDependant_succ_cases ctx fuel he with
            ⟨-, heq⟩ | ⟨-, heq, -⟩ | ⟨-, o, eo, -, -, -, heq⟩ <;> rw [heq]
          · simp [hk]
          · simp [hk]
          · exact ih (by simp [hk])

/-- Given any fuel at all, `addDependant` sees the entry it was called on. -/
theorem addDependant_succ_seen {ctx : Retention} {idx fuel : Nat} {e : TableEntry}
    (he : t.entries[idx]? = some e) :
    (addDependant b t (fuel + 1) ctx idx).isVisited e.key = true := by
  rcases addDependant_succ_cases ctx fuel he with
    ⟨-, heq⟩ | ⟨-, heq, -⟩ | ⟨-, o, eo, -, -, -, heq⟩ <;> rw [heq]
  · simp
  · simp
  · exact addDependant_seen_mono (by simp)

/-! ## The invariant through one call -/

section Steps

variable {R : Replacer} {ctx : Retention} {idx : Nat} {e : TableEntry}

/-- A key newly retained together with `e.key` belongs to `e`. -/
private theorem retained_key_cases (wf : t.WellFormed) (he : t.entries[idx]? = some e)
    {j : Nat} {ej : TableEntry} (hej : t.entries[j]? = some ej)
    (hret : ej.key = e.key ∨ ctx.isRetained ej.key = true) :
    (j = idx ∧ ej = e) ∨ (ej.key ≠ e.key ∧ ctx.isRetained ej.key = true) := by
  by_cases hkey : ej.key = e.key
  · have hj := wf.eq_of_key_eq hej he hkey
    subst hj
    rw [he, Option.some.injEq] at hej
    exact .inl ⟨rfl, hej.symm⟩
  · exact .inr ⟨hkey, hret.resolve_left hkey⟩

theorem Invariant.retain_method (inv : Invariant b t reps R ctx) (wf : t.WellFormed)
    (he : t.entries[idx]? = some e) (hmethod : e.IsMethod) (hretains : Retains b t reps idx) :
    Invariant b t reps R (ctx.retain e.key .func) where
  visited k := by
    rw [Bool.eq_iff_iff, Retention.isVisited_retain, Retention.isRetained_retain, inv.visited]
  placeholder k := by rw [Retention.isPlaceholder_retain]; exact inv.placeholder k
  placeholder_retained k hk := by simp [inv.placeholder_retained k hk]
  sound k hk := by
    rcases (Retention.isRetained_retain ..).mp hk with rfl | hold
    · exact ⟨idx, e, he, rfl, hretains⟩
    · exact inv.sound k hold
  renamed {j ej} hej hret hnot hph := by
    rw [Retention.isRetained_retain] at hret
    rcases retained_key_cases wf he hej hret with ⟨-, rfl⟩ | ⟨-, hold⟩
    · exact absurd hmethod hnot
    · simpa using inv.renamed hej hold hnot hph
  renames_only k hk := inv.renames_only k (by simpa using hk)
  replacer := inv.replacer

theorem Invariant.retainRenamed (inv : Invariant b t reps R ctx) (wf : t.WellFormed)
    (he : t.entries[idx]? = some e) (hnot : ¬ e.IsMethod) (hretains : Retains b t reps idx) :
    Invariant b t reps R
      (ctx.retainRenamed e.key e.kind (e.names.map fun n => (n.pos.start, n.name))) where
  visited k := by
    rw [Bool.eq_iff_iff, Retention.isVisited_retainRenamed, Retention.isRetained_retainRenamed,
      Retention.isVisited_retain, Retention.isRetained_retain, inv.visited]
  placeholder k := by rw [Retention.isPlaceholder_retainRenamed]; exact inv.placeholder k
  placeholder_retained k hk := by simp [inv.placeholder_retained k hk]
  sound k hk := by
    rw [Retention.isRetained_retainRenamed, Retention.isRetained_retain] at hk
    rcases hk with rfl | hold
    · exact ⟨idx, e, he, rfl, hretains⟩
    · exact inv.sound k hold
  renamed {j ej} hej hret hnotj hph n hn := by
    rw [Retention.isRetained_retainRenamed, Retention.isRetained_retain] at hret
    have hnames : (e.names.map fun n => (n.pos.start, n.name)).map Prod.fst = e.positions := by
      simp [TableEntry.positions]
    rw [Retention.renameOf_retainRenamed, inv.replacer]
    rcases retained_key_cases wf he hej hret with ⟨-, rfl⟩ | ⟨hkey, hold⟩
    · -- the entry renamed just now: its names stand at distinct offsets
      apply Retention.renameAll_of_mem _ _ _ _ (hnames ▸ wf.positions_nodup he)
      exact List.mem_map.mpr ⟨n, hn, rfl⟩
    · -- an entry renamed earlier: none of its names is one of this entry's
      rw [Retention.renameAll_of_not_mem]
      · exact inv.renamed hej hold hnotj hph n hn
      · intro p hp hpk
        obtain ⟨m, hm, rfl⟩ := List.mem_map.mp hp
        have hj := wf.eq_of_mem hej he (List.mem_map_of_mem (f := (·.pos.start)) hn)
          (hpk ▸ List.mem_map_of_mem (f := (·.pos.start)) hm)
        subst hj
        rw [he, Option.some.injEq] at hej
        subst hej
        exact hkey rfl
  renames_only k hk := by
    rw [Retention.renameOf_retainRenamed] at hk
    by_cases hmem : ∃ p ∈ e.names.map (fun n => (n.pos.start, n.name)), p.1 = k
    · obtain ⟨p, hp, rfl⟩ := hmem
      obtain ⟨m, hm, rfl⟩ := List.mem_map.mp hp
      exact .inr ⟨idx, e, he, hnot, List.mem_map_of_mem hm⟩
    · rw [Retention.renameAll_of_not_mem _ _ _ _ (fun p hp hpk => hmem ⟨p, hp, hpk⟩)] at hk
      exact inv.renames_only k hk
  replacer := by rw [Retention.replacer_retainRenamed]; exact inv.replacer

end Steps

/-! ## The invariant through `addDependant` -/

/-- In a well-formed table a receiver entry is an entry. -/
theorem receiverOwner_entry (wf : t.WellFormed) {e : TableEntry} {o : Nat}
    (howner : receiverOwner b t e = some o) : ∃ eo, t.entries[o]? = some eo := by
  unfold receiverOwner at howner
  obtain ⟨recv, -, howner⟩ := Option.bind_eq_some_iff.mp howner
  obtain ⟨bd, -, howner⟩ := Option.bind_eq_some_iff.mp howner
  obtain ⟨eo, heo, -⟩ := wf.entry_of_owner howner
  exact ⟨eo, heo⟩

/-- An unseen entry that `Retains` can be added with the invariant kept. -/
theorem Invariant.addDependant {R : Replacer} {ctx : Retention} {idx fuel : Nat}
    {e : TableEntry} (inv : Invariant b t reps R ctx) (wf : t.WellFormed)
    (he : t.entries[idx]? = some e) (hnew : ctx.isRetained e.key = false)
    (hretains : Retains b t reps idx) :
    Invariant b t reps R (addDependant b t fuel ctx idx) := by
  induction fuel generalizing ctx idx e with
  | zero => exact inv
  | succ fuel ih =>
      rcases addDependant_succ_cases ctx fuel he with
        ⟨hnot, heq⟩ | ⟨hmethod, heq, -⟩ | ⟨hmethod, o, eo, howner, heo, hunseen, heq⟩ <;> rw [heq]
      · exact inv.retainRenamed wf he hnot hretains
      · exact inv.retain_method wf he hmethod hretains
      · -- the receiver entry is unseen: it is added next, and it `Retains` through `e`
        have inv' := inv.retain_method wf he hmethod hretains
        exact ih inv' heo (by rw [← inv'.visited]; exact hunseen)
          (.receiver he hmethod.1 howner hretains)

/-- Once `addDependant` has run with enough fuel, every retained method's receiver is
retained, provided it was so before for every method but those whose receiver is the
entry being added. -/
theorem ReceiversRetained.addDependant {R : Replacer} {ctx : Retention} {idx fuel : Nat}
    {e : TableEntry} (inv : Invariant b t reps R ctx) (wf : t.WellFormed)
    (he : t.entries[idx]? = some e) (hnew : ctx.isRetained e.key = false)
    (hretains : Retains b t reps idx)
    (hrecv : ReceiversRetained b t
      (fun i => ∃ ei, t.entries[i]? = some ei ∧ receiverOwner b t ei = some idx) ctx)
    (hfuel : unseen t ctx < fuel) :
    ReceiversRetained b t (fun _ => False) (addDependant b t fuel ctx idx) := by
  induction fuel generalizing ctx idx e with
  | zero => omega
  | succ fuel ih =>
      -- entries retained before keep their receivers; those pending on `idx` are served
      have hold : ∀ {i o : Nat} {ei : TableEntry}, t.entries[i]? = some ei → ei.kind = .func →
          ctx.isRetained ei.key = true → receiverOwner b t ei = some o →
          ∀ ctx' : Retention, ctx'.isRetained e.key = true →
            (∀ k, ctx.isRetained k = true → ctx'.isRetained k = true) →
            ∃ e', t.entries[o]? = some e' ∧ ctx'.isRetained e'.key = true := by
        intro i o ei hei hkind hret howner ctx' hself hmono
        rcases hrecv hei hkind hret howner with ⟨ei', hei', howner'⟩ | ⟨e', he', hret'⟩
        · rw [hei, Option.some.injEq] at hei'
          subst hei'
          rw [howner, Option.some.injEq] at howner'
          subst howner'
          exact ⟨e, he, hself⟩
        · exact ⟨e', he', hmono _ hret'⟩
      rcases addDependant_succ_cases ctx fuel he with
        ⟨hnot, heq⟩ | ⟨hmethod, heq, hseen⟩ | ⟨hmethod, o, eo, howner, heo, hunseen, heq⟩ <;>
        rw [heq]
      · intro i o ei hei hkind hret howner
        rw [Retention.isRetained_retainRenamed, Retention.isRetained_retain] at hret
        rcases retained_key_cases wf he hei hret with ⟨-, rfl⟩ | ⟨-, hret⟩
        · -- a function without receiver has no receiver entry
          have hnone : ei.receiver = none := by
            simpa [TableEntry.IsMethod, hkind] using hnot
          simp [receiverOwner, hnone] at howner
        · exact .inr (hold hei hkind hret howner _ (by simp) (by simp +contextual))
      · intro i o ei hei hkind hret howner
        rw [Retention.isRetained_retain] at hret
        rcases retained_key_cases wf he hei hret with ⟨-, rfl⟩ | ⟨-, hret⟩
        · -- its receiver entry was seen already, so it is retained
          obtain ⟨eo, heo⟩ := receiverOwner_entry wf howner
          refine .inr ⟨eo, heo, ?_⟩
          have hv := hseen o howner eo heo
          rwa [Retention.isVisited_retain, inv.visited, ← Retention.isRetained_retain] at hv
        · exact .inr (hold hei hkind hret howner _ (by simp) (by simp +contextual))
      · -- retain the method, then add its unseen receiver entry with one fuel less
        have inv' := inv.retain_method wf he hmethod hretains
        have hlt : unseen t (ctx.retain e.key .func) < unseen t ctx :=
          unseen_lt (by simp +contextual) he (by rw [inv.visited]; exact hnew) (by simp)
        have hrecv' : ReceiversRetained b t
            (fun i => ∃ ei, t.entries[i]? = some ei ∧ receiverOwner b t ei = some o)
            (ctx.retain e.key .func) := by
          intro i o' ei hei hkind hret howner'
          rw [Retention.isRetained_retain] at hret
          rcases retained_key_cases wf he hei hret with ⟨-, rfl⟩ | ⟨-, hret⟩
          · exact .inl ⟨ei, hei, howner⟩
          · exact .inr (hold hei hkind hret howner' _ (by simp) (by simp +contextual))
        exact ih inv' heo (by rw [← inv'.visited]; exact hunseen)
          (.receiver he hmethod.1 howner hretains) hrecv' (by omega)

/-! ## Passes -/

/-- One entry's turn in a pass. -/
def passStep (b : Bindings) (t : DeclTable) (acc : Retention × Bool) (idx : Nat) :
    Retention × Bool :=
  match t.entries[idx]? with
  | some e =>
    if acc.1.isVisited e.key || !isDependant b t acc.1 e then acc
    else (addDependant b t (t.entries.size + 1) acc.1 idx, true)
  | none => acc

theorem closurePass_eq (ctx : Retention) :
    closurePass b t ctx = (List.range t.entries.size).foldl (passStep b t) (ctx, false) := rfl

theorem ReceiversRetained.mono {P Q : Nat → Prop} {ctx : Retention}
    (h : ReceiversRetained b t P ctx) (hPQ : ∀ i, P i → Q i) : ReceiversRetained b t Q ctx :=
  fun _ _ _ hei hkind hret howner => (h hei hkind hret howner).imp_left (hPQ _)

/-- A dependant, by the closure's test, `Retains`. -/
theorem retains_of_isDependant {R : Replacer} {ctx : Retention} {idx : Nat} {e : TableEntry}
    (inv : Invariant b t reps R ctx) (wf : t.WellFormed) (he : t.entries[idx]? = some e)
    (hdep : isDependant b t ctx e = true) : Retains b t reps idx := by
  obtain ⟨hpm, o, e', href, he', hret⟩ := (isDependant_iff inv.placeholder e).mp hdep
  obtain ⟨j, ej, hej, hkey, hj⟩ := inv.sound _ hret
  have hjo := wf.eq_of_key_eq hej he' hkey
  subst hjo
  exact .dependant he hpm href hj

/-- What a run of pass steps over some indices does: it keeps the invariant and never
raises the count of unseen entries; if it reports no change, the state is the one it
started from and every index it met was seen or not a dependant; if it reports a change
it did not start with, the count fell. -/
theorem passStep_fold {R : Replacer} (wf : t.WellFormed) (l : List Nat) :
    ∀ (ctx : Retention) (changed : Bool), Invariant b t reps R ctx →
      ReceiversRetained b t (fun _ => False) ctx →
      let res := l.foldl (passStep b t) (ctx, changed)
      Invariant b t reps R res.1 ∧ ReceiversRetained b t (fun _ => False) res.1 ∧
        unseen t res.1 ≤ unseen t ctx ∧
        (res.2 = false → changed = false ∧ res.1 = ctx ∧ ∀ idx ∈ l, ∀ e,
          t.entries[idx]? = some e → ctx.isVisited e.key = true ∨ isDependant b t ctx e = false) ∧
        (res.2 = true → changed = true ∨ unseen t res.1 < unseen t ctx) := by
  induction l with
  | nil => intro ctx changed inv hrecv; simp [inv, hrecv]
  | cons idx l ih =>
      intro ctx changed inv hrecv
      simp only [List.foldl_cons]
      -- the turn of `idx` either leaves the state alone or adds the entry
      have hstay : ∀ (hidx : ∀ e, t.entries[idx]? = some e →
            ctx.isVisited e.key = true ∨ isDependant b t ctx e = false),
          passStep b t (ctx, changed) idx = (ctx, changed) →
          let res := l.foldl (passStep b t) (passStep b t (ctx, changed) idx)
          Invariant b t reps R res.1 ∧ ReceiversRetained b t (fun _ => False) res.1 ∧
            unseen t res.1 ≤ unseen t ctx ∧
            (res.2 = false → changed = false ∧ res.1 = ctx ∧ ∀ idx' ∈ idx :: l, ∀ e,
              t.entries[idx']? = some e →
                ctx.isVisited e.key = true ∨ isDependant b t ctx e = false) ∧
            (res.2 = true → changed = true ∨ unseen t res.1 < unseen t ctx) := by
        intro hidx heq
        rw [heq]
        obtain ⟨hinv, hrec, hle, hfalse, htrue⟩ := ih ctx changed inv hrecv
        refine ⟨hinv, hrec, hle, fun h => ?_, htrue⟩
        obtain ⟨hc, hres, hall⟩ := hfalse h
        refine ⟨hc, hres, fun idx' hidx' => ?_⟩
        rcases List.mem_cons.mp hidx' with rfl | hmem
        · exact hidx
        · exact hall idx' hmem
      cases he : t.entries[idx]? with
      | none => exact hstay (by simp [he]) (by simp [passStep, he])
      | some e =>
          by_cases hskip : ctx.isVisited e.key = true ∨ isDependant b t ctx e = false
          · refine hstay (fun e' he' => ?_) ?_
            · rw [he, Option.some.injEq] at he'
              exact he' ▸ hskip
            · have : (ctx.isVisited e.key || !isDependant b t ctx e) = true := by
                rcases hskip with h | h <;> simp [h]
              simp [passStep, he, this]
          · -- the entry is an unseen dependant: `addDependant` adds it
            simp only [not_or, Bool.not_eq_true, Bool.not_eq_false] at hskip
            obtain ⟨hunseen, hdep⟩ := hskip
            have hstep : passStep b t (ctx, changed) idx =
                (addDependant b t (t.entries.size + 1) ctx idx, true) := by
              simp [passStep, he, hunseen, hdep]
            rw [hstep]
            have hnew : ctx.isRetained e.key = false := by rw [← inv.visited]; exact hunseen
            have hretains := retains_of_isDependant inv wf he hdep
            have inv' : Invariant b t reps R (addDependant b t (t.entries.size + 1) ctx idx) :=
              inv.addDependant wf he hnew hretains
            have hrecv' := ReceiversRetained.addDependant inv wf he hnew hretains
              (hrecv.mono fun _ h => h.elim) (Nat.lt_succ_of_le (unseen_le_size ctx))
            have hlt : unseen t (addDependant b t (t.entries.size + 1) ctx idx) < unseen t ctx :=
              unseen_lt (fun k hk => addDependant_seen_mono hk) he hunseen
                (addDependant_succ_seen he)
            obtain ⟨hinv, hrec, hle, hfalse, -⟩ := ih _ true inv' hrecv'
            refine ⟨hinv, hrec, by omega, fun h => absurd (hfalse h).1 (by simp), fun _ => ?_⟩
            exact .inr (by omega)

/-- The passes of the closure, with more fuel than unseen entries, end in a state with
the invariant where every entry is seen or not a dependant. -/
theorem closeOver_spec {R : Replacer} (wf : t.WellFormed) (fuel : Nat) :
    ∀ ctx, Invariant b t reps R ctx → ReceiversRetained b t (fun _ => False) ctx →
      unseen t ctx < fuel →
      Invariant b t reps R (closeOver b t fuel ctx) ∧
        ReceiversRetained b t (fun _ => False) (closeOver b t fuel ctx) ∧
        ∀ (idx : Nat) (e : TableEntry), t.entries[idx]? = some e →
          (closeOver b t fuel ctx).isVisited e.key = true ∨
          isDependant b t (closeOver b t fuel ctx) e = false := by
  induction fuel with
  | zero => intro ctx _ _ hfuel; omega
  | succ fuel ih =>
      intro ctx inv hrecv hfuel
      obtain ⟨hinv, hrec, -, hfalse, htrue⟩ :=
        passStep_fold wf (List.range t.entries.size) ctx false inv hrecv
      rw [← closurePass_eq] at hinv hrec hfalse htrue
      rcases hpass : closurePass b t ctx with ⟨ctx', changed⟩
      rw [hpass] at hinv hrec hfalse htrue
      simp only [closeOver, hpass]
      cases changed with
      | true =>
          -- a changing pass lowered the count, so the remaining fuel still suffices
          have hlt : unseen t ctx' < unseen t ctx := (htrue rfl).resolve_left (by simp)
          exact ih ctx' hinv hrec (by omega)
      | false =>
          obtain ⟨-, hsame, hall⟩ := hfalse rfl
          subst hsame
          refine ⟨hinv, hrec, fun idx e he => hall idx ?_ e he⟩
          exact List.mem_range.mpr (Array.getElem?_eq_some_iff.mp he).1

/-! ## Registration establishes the invariant -/

/-- A key is retained after registration exactly when it is a placeholder's key; the same
holds of seen keys and recorded placeholders, and only placeholders are renamed. -/
theorem registerPlaceholders_observe (reps : List (String × Replacement)) (k : Nat) :
    let ctx := registerPlaceholders t reps {}
    (ctx.isRetained k = true ↔ t.IsPlaceholderKey reps k) ∧
      (ctx.isVisited k = true ↔ t.IsPlaceholderKey reps k) ∧
      (ctx.isPlaceholder k = true ↔ t.IsPlaceholderKey reps k) ∧
      (ctx.renameOf k ≠ none → t.IsPlaceholderKey reps k) := by
  have hkey : (∃ e ∈ t.entries.toList, e.IsPlaceholder reps ∧ e.key = k) ↔
      t.IsPlaceholderKey reps k := by
    simp only [DeclTable.IsPlaceholderKey, List.mem_iff_getElem?, Array.getElem?_toList]
    constructor
    · rintro ⟨e, ⟨i, hi⟩, hp, hk⟩
      exact ⟨i, e, hi, hp, hk⟩
    · rintro ⟨i, e, hi, hp, hk⟩
      exact ⟨e, ⟨i, hi⟩, hp, hk⟩
  obtain ⟨hret, hvis, hph, hren⟩ := registerEntries_observe reps t.entries.toList {} k
  simp only [registerPlaceholders_eq, Retention.isRetained_empty, Retention.isVisited_empty,
    Retention.isPlaceholder_empty, Retention.renameOf_empty, Bool.false_eq_true, false_or,
    ne_eq, not_true_eq_false] at hret hvis hph hren ⊢
  exact ⟨hret.trans hkey, hvis.trans hkey, hph.trans hkey, fun h => hkey.mp (hren h)⟩

/-- A retained key after registration belongs to a placeholder entry, and to no other. -/
private theorem registered_entry (wf : t.WellFormed) {i : Nat} {e : TableEntry}
    (he : t.entries[i]? = some e)
    (hret : (registerPlaceholders t reps {}).isRetained e.key = true) : e.IsPlaceholder reps := by
  obtain ⟨j, ej, hej, hp, hkey⟩ := ((registerPlaceholders_observe reps e.key).1).mp hret
  have hji := wf.eq_of_key_eq hej he hkey
  subst hji
  rw [he, Option.some.injEq] at hej
  exact hej ▸ hp

theorem registerPlaceholders_invariant (wf : t.WellFormed) :
    Invariant b t reps (registerPlaceholders t reps {}).replacer
      (registerPlaceholders t reps {}) where
  visited k := by
    rw [Bool.eq_iff_iff, (registerPlaceholders_observe reps k).2.1,
      (registerPlaceholders_observe reps k).1]
  placeholder k := (registerPlaceholders_observe reps k).2.2.1
  placeholder_retained k hk := (registerPlaceholders_observe reps k).1.mpr hk
  sound k hk := by
    obtain ⟨i, e, he, hp, rfl⟩ := (registerPlaceholders_observe reps k).1.mp hk
    exact ⟨i, e, he, rfl, .placeholder he hp⟩
  renamed he hret _ hph := absurd (registered_entry wf he hret) hph
  renames_only k hk := .inl ((registerPlaceholders_observe reps k).2.2.2 hk)
  replacer := rfl

theorem registerPlaceholders_receivers (wf : t.WellFormed) :
    ReceiversRetained b t (fun _ => False) (registerPlaceholders t reps {}) := by
  intro i o e he hkind hret _
  have hp := registered_entry wf he hret
  rw [hp.1] at hkind
  cases hkind

/-! ## The outcome -/

section Outcome

variable (b t reps) in
/-- The state a closure run ends in, for the replacer `R` of its placeholders: the
retained entries form the least set closed under the three rules; a method is never
renamed; every other retained entry but a placeholder has each of its names renamed
through `R`; and pruning leaves exactly the retained entries that are not placeholders. -/
structure ClosureOutcome (R : Replacer) (ctx : Retention) : Prop where
  closed : ClosedUnder b t reps fun i => ∃ e, t.entries[i]? = some e ∧ ctx.isRetained e.key = true
  least : ∀ S, ClosedUnder b t reps S → ∀ k, ctx.isRetained k = true →
    ∃ (i : Nat) (e : TableEntry), t.entries[i]? = some e ∧ e.key = k ∧ S i
  method_not_renamed : ∀ {i : Nat} {e : TableEntry}, t.entries[i]? = some e → e.IsMethod →
    ctx.renameOf e.key = none
  renamed : ∀ {i : Nat} {e : TableEntry}, t.entries[i]? = some e → ctx.isRetained e.key = true →
    ¬ e.IsMethod → ¬ e.IsPlaceholder reps →
    ∀ n ∈ e.names, ctx.renameOf n.pos.start = some (.ident (R.apply n.name))
  pruned : ∀ k, ctx.prunePlaceholders.isRetained k = true ↔
    ctx.isRetained k = true ∧ ¬ t.IsPlaceholderKey reps k

/-- The invariant, the receivers and a last pass that changed nothing give the outcome. -/
theorem closureOutcome_of {R : Replacer} {ctx : Retention} (wf : t.WellFormed)
    (inv : Invariant b t reps R ctx) (hrecv : ReceiversRetained b t (fun _ => False) ctx)
    (hfix : ∀ (idx : Nat) (e : TableEntry), t.entries[idx]? = some e →
      ctx.isVisited e.key = true ∨ isDependant b t ctx e = false) :
    ClosureOutcome b t reps R ctx where
  closed := {
    placeholder := fun {i e} he hp => ⟨e, he, inv.placeholder_retained _ ⟨i, e, he, hp, rfl⟩⟩
    dependant := fun {i o e} he hpm href ⟨eo, heo, hret⟩ => by
      refine ⟨e, he, ?_⟩
      -- a dependant left unseen would have failed the last pass's test
      rcases hfix i e he with hseen | hnot
      · rwa [← inv.visited]
      · have hdep : isDependant b t ctx e = true :=
          (isDependant_iff inv.placeholder e).mpr ⟨hpm, o, eo, href, heo, hret⟩
        rw [hdep] at hnot
        cases hnot
    receiver := fun {i o e} he hkind howner ⟨e', he', hret⟩ => by
      rw [he, Option.some.injEq] at he'
      subst he'
      exact (hrecv he hkind hret howner).resolve_left id }
  least S hS k hk := by
    obtain ⟨i, e, he, hkey, hretains⟩ := inv.sound k hk
    exact ⟨i, e, he, hkey, hretains.le hS⟩
  method_not_renamed {i e} he hmethod := by
    by_contra hren
    rcases inv.renames_only _ hren with ⟨j, ej, hej, hp, hkey⟩ | ⟨j, ej, hej, hnot, hmem⟩
    · -- a placeholder is a type, not a method
      have hji := wf.eq_of_key_eq hej he hkey
      subst hji
      rw [he, Option.some.injEq] at hej
      subst hej
      have hkind := hmethod.1
      rw [hp.1] at hkind
      cases hkind
    · -- a name of another entry never stands where the method's name stands
      have hji := wf.eq_of_mem hej he hmem (wf.key_mem he)
      subst hji
      rw [he, Option.some.injEq] at hej
      subst hej
      exact hnot hmethod
  renamed := inv.renamed
  pruned k := by
    rw [Retention.isRetained_prunePlaceholders, ← inv.placeholder]
    simp

end Outcome

/-- For a well-formed table, registering the placeholders and growing the closure ends in
the least closed set, with the renames the closure promises. -/
theorem collectDependants_outcome (wf : t.WellFormed) :
    ClosureOutcome b t reps (registerPlaceholders t reps {}).replacer
      (collectDependants b t (registerPlaceholders t reps {})) := by
  obtain ⟨inv, hrecv, hfix⟩ := closeOver_spec (b := b) wf (t.entries.size + 1) _
    (registerPlaceholders_invariant wf) (registerPlaceholders_receivers wf)
    (Nat.lt_succ_of_le (unseen_le_size _))
  exact closureOutcome_of wf inv hrecv hfix

end GoTemplates.Specialize
