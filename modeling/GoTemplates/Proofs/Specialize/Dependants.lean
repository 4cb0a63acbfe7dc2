import GoTemplates.Specialize.Closure
import GoTemplates.Proofs.Specialize.Retention
import GoTemplates.Proofs.Specialize.Table

/-! # Which declarations depend on the placeholders

The retained declarations are meant to be the least set of table entries
closed under three rules: every type declaration named by the replacement
table is retained (a placeholder); an entry that is not a method of a
placeholder and mentions a package level declaration of a retained entry is
retained; and a retained method brings the entry of its receiver's base type.
`ClosedUnder` states the rules and `Retains` is the least set they generate.

This module also reads the closure's own tests in these terms: a dependant
test that succeeds names a retained owner, and registering the placeholders
retains and marks exactly the placeholder entries.
-/

namespace GoTemplates.Specialize

open GoTemplates.Syntax GoTemplates.Source

variable (b : Bindings) (t : DeclTable) (reps : List (String × Replacement))

/-- A type declaration whose name has a replacement. -/
def TableEntry.IsPlaceholder (e : TableEntry) : Prop :=
  e.kind = .type ∧ ∃ n, e.names.head? = some n ∧ (reps.lookup n.name).isSome = true

/-- A function declared with a receiver. -/
def TableEntry.IsMethod (e : TableEntry) : Prop := e.kind = .func ∧ e.receiver.isSome = true

/-- The key of a placeholder entry of the table. -/
def DeclTable.IsPlaceholderKey (k : Nat) : Prop :=
  ∃ (i : Nat) (e : TableEntry), t.entries[i]? = some e ∧ e.IsPlaceholder reps ∧ e.key = k

/-- A method of a placeholder: its receiver's base type name is bound to a placeholder. -/
def PlaceholderMethod (e : TableEntry) : Prop :=
  ∃ recv bd, e.receiver = some recv ∧ b.lookup recv.pos = some bd ∧ t.IsPlaceholderKey reps bd.key

/-- An identifier of the entry's subtree is bound to a package level declaration of
entry `o`. -/
def RefersTo (e : TableEntry) (o : Nat) : Prop :=
  ∃ id ∈ e.site.idents, ∃ bd, b.lookup id.pos = some bd ∧ bd.isPackageLevel = true ∧
    t.owner bd.key = some o

/-- The entry that declares what a method's receiver base type name is bound to. -/
def receiverOwner (e : TableEntry) : Option Nat :=
  e.receiver.bind fun recv => (b.lookup recv.pos).bind fun bd => t.owner bd.key

/-- A set of entries closed under the three ways of being retained. -/
structure ClosedUnder (S : Nat → Prop) : Prop where
  placeholder : ∀ {i : Nat} {e : TableEntry}, t.entries[i]? = some e → e.IsPlaceholder reps → S i
  dependant : ∀ {i o : Nat} {e : TableEntry}, t.entries[i]? = some e →
    ¬ PlaceholderMethod b t reps e → RefersTo b t e o → S o → S i
  receiver : ∀ {i o : Nat} {e : TableEntry}, t.entries[i]? = some e → e.kind = .func →
    receiverOwner b t e = some o → S i → S o

/-- The entries that the three rules retain: the least closed set. -/
inductive Retains : Nat → Prop
  | placeholder {i : Nat} {e : TableEntry} :
      t.entries[i]? = some e → e.IsPlaceholder reps → Retains i
  | dependant {i o : Nat} {e : TableEntry} : t.entries[i]? = some e →
      ¬ PlaceholderMethod b t reps e → RefersTo b t e o → Retains o → Retains i
  | receiver {i o : Nat} {e : TableEntry} : t.entries[i]? = some e → e.kind = .func →
      receiverOwner b t e = some o → Retains i → Retains o

theorem retains_closedUnder : ClosedUnder b t reps (Retains b t reps) :=
  ⟨.placeholder, .dependant, .receiver⟩

variable {b t reps}

/-- `Retains` lies inside every closed set. -/
theorem Retains.le {S : Nat → Prop} (hS : ClosedUnder b t reps S) {i : Nat}
    (h : Retains b t reps i) : S i := by
  induction h with
  | placeholder he hp => exact hS.placeholder he hp
  | dependant he hpm href _ ih => exact hS.dependant he hpm href ih
  | receiver he hkind hown _ ih => exact hS.receiver he hkind hown ih

/-! ## The closure's tests -/

theorem refersToRetained_iff (ctx : Retention) (pos : Span) :
    refersToRetained b t ctx pos = true ↔ ∃ bd o e, b.lookup pos = some bd ∧
      bd.isPackageLevel = true ∧ t.owner bd.key = some o ∧ t.entries[o]? = some e ∧
      ctx.isRetained e.key = true := by
  unfold refersToRetained
  cases hlookup : b.lookup pos with
  | none => simp
  | some bd =>
      cases howner : t.owner bd.key with
      | none => simp [howner]
      | some o =>
          cases hentry : t.entries[o]? with
          | none => simp [howner, DeclTable.keyAt, hentry]
          | some e => simp [howner, DeclTable.keyAt, hentry]

/-- A dependant, for the closure: not a placeholder's method, and mentioning a
package level declaration of a retained entry. -/
theorem isDependant_iff {ctx : Retention}
    (hph : ∀ k, ctx.isPlaceholder k = true ↔ t.IsPlaceholderKey reps k) (e : TableEntry) :
    isDependant b t ctx e = true ↔ ¬ PlaceholderMethod b t reps e ∧
      ∃ o e', RefersTo b t e o ∧ t.entries[o]? = some e' ∧ ctx.isRetained e'.key = true := by
  have hany : (e.site.idents.any fun id => refersToRetained b t ctx id.pos) = true ↔
      ∃ o e', RefersTo b t e o ∧ t.entries[o]? = some e' ∧ ctx.isRetained e'.key = true := by
    simp only [List.any_eq_true, refersToRetained_iff, RefersTo]
    constructor
    · rintro ⟨id, hid, bd, o, e', hlookup, hpkg, howner, hentry, hret⟩
      exact ⟨o, e', ⟨id, hid, bd, hlookup, hpkg, howner⟩, hentry, hret⟩
    · rintro ⟨o, e', ⟨id, hid, bd, hlookup, hpkg, howner⟩, hentry, hret⟩
      exact ⟨id, hid, bd, o, e', hlookup, hpkg, howner, hentry, hret⟩
  unfold isDependant PlaceholderMethod
  rw [Bool.and_eq_true, hany]
  apply and_congr_left'
  -- the placeholder method test looks up the receiver's binding, then the placeholders
  cases hrecv : e.receiver with
  | none => simp
  | some recv =>
      cases hlookup : b.lookup recv.pos with
      | none => simp [hlookup]
      | some bd => simp [hlookup, ← hph]

/-! ## Registering the placeholders -/

/-- One entry's turn in registering the placeholders. -/
def registerEntry (reps : List (String × Replacement)) (ctx : Retention) (e : TableEntry) :
    Retention :=
  if e.kind != .type then ctx
  else match e.names.head? with
    | some n => match reps.lookup n.name with
      | some r => ctx.addPlaceholder e.key n.name r
      | none => ctx
    | none => ctx

theorem registerPlaceholders_eq (ctx : Retention) :
    registerPlaceholders t reps ctx = t.entries.toList.foldl (registerEntry reps) ctx := by
  rw [Array.foldl_toList]
  rfl

/-- Registering an entry either leaves the state alone or, for a placeholder, adds it
under its key. -/
theorem registerEntry_cases (ctx : Retention) (e : TableEntry) :
    (¬ e.IsPlaceholder reps ∧ registerEntry reps ctx e = ctx) ∨
      ∃ n r, e.IsPlaceholder reps ∧ registerEntry reps ctx e = ctx.addPlaceholder e.key n r := by
  by_cases hkind : e.kind = .type
  · cases hhead : e.names.head? with
    | none =>
        refine .inl ⟨fun ⟨_, n, hn, _⟩ => by simp [hhead] at hn, ?_⟩
        simp [registerEntry, hkind, hhead]
    | some n =>
        cases hlookup : reps.lookup n.name with
        | none =>
            refine .inl ⟨fun ⟨_, n', hn', hsome⟩ => ?_, ?_⟩
            · rw [hhead, Option.some.injEq] at hn'
              subst hn'
              simp [hlookup] at hsome
            · simp [registerEntry, hkind, hhead, hlookup]
        | some r =>
            refine .inr ⟨n.name, r, ⟨hkind, n, hhead, by simp [hlookup]⟩, ?_⟩
            simp [registerEntry, hkind, hhead, hlookup]
  · refine .inl ⟨fun ⟨hk, _⟩ => hkind hk, ?_⟩
    simp [registerEntry, hkind]

/-- What registration retains, marks seen and records as placeholders: exactly the
placeholder entries, added to what was there. -/
theorem registerEntries_observe (reps : List (String × Replacement)) (es : List TableEntry)
    (ctx : Retention) (k : Nat) :
    let ctx' := es.foldl (registerEntry reps) ctx
    (ctx'.isRetained k = true ↔ ctx.isRetained k = true ∨
        ∃ e ∈ es, e.IsPlaceholder reps ∧ e.key = k) ∧
      (ctx'.isVisited k = true ↔ ctx.isVisited k = true ∨
        ∃ e ∈ es, e.IsPlaceholder reps ∧ e.key = k) ∧
      (ctx'.isPlaceholder k = true ↔ ctx.isPlaceholder k = true ∨
        ∃ e ∈ es, e.IsPlaceholder reps ∧ e.key = k) ∧
      (ctx'.renameOf k ≠ none → ctx.renameOf k ≠ none ∨
        ∃ e ∈ es, e.IsPlaceholder reps ∧ e.key = k) := by
  induction es generalizing ctx with
  | nil => simp
  | cons e es ih =>
      simp only [List.foldl_cons]
      rcases registerEntry_cases ctx e with ⟨hnot, heq⟩ | ⟨n, r, hp, heq⟩
      · obtain ⟨hret, hvis, hph, hren⟩ := ih ctx
        rw [heq, hret, hvis, hph]
        refine ⟨?_, ?_, ?_, fun h => ?_⟩
        · grind
        · grind
        · grind
        · grind
      · obtain ⟨hret, hvis, hph, hren⟩ := ih (ctx.addPlaceholder e.key n r)
        rw [heq, hret, hvis, hph, Retention.isRetained_addPlaceholder,
          Retention.isVisited_addPlaceholder, Retention.isPlaceholder_addPlaceholder]
        refine ⟨?_, ?_, ?_, fun h => ?_⟩
        · grind
        · grind
        · grind
        · rcases hren h with hold | hnew
          · rw [Retention.renameOf_addPlaceholder] at hold
            grind
          · grind

end GoTemplates.Specialize
