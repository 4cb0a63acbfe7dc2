import GoTemplates.Specialize.Table
import Mathlib.Data.List.Nodup

/-! # Well-formed declaration tables

A table is well formed when every declared name stands at an offset of its
own, each entry's key is the offset of its first name, and `owner` finds, for
each such offset, the entry that declares it. The table of any file whose
declared names stand at distinct offsets is well formed; in a well-formed
table two entries with a common key, or a common name offset, are the same
entry.
-/

namespace GoTemplates.Specialize

open GoTemplates.Syntax

/-- The offsets of an entry's names. -/
def TableEntry.positions (e : TableEntry) : List Nat := e.names.map (·.pos.start)

namespace DeclTable

/-- The offsets of all names of a table, entry by entry. -/
def positions (t : DeclTable) : List Nat := t.entries.toList.flatMap TableEntry.positions

/-- What the closure needs of a table. -/
structure WellFormed (t : DeclTable) : Prop where
  nodup : t.positions.Nodup
  key_eq : ∀ {i : Nat} {e : TableEntry}, t.entries[i]? = some e → ∃ n rest, e.names = n :: rest ∧ e.key = n.pos.start
  owner_iff : ∀ {k o : Nat}, t.owner k = some o ↔ ∃ e, t.entries[o]? = some e ∧ k ∈ e.positions

/-! ## Building a table entry by entry -/

/-- The entries a top level declaration contributes. -/
def declEntries : TopDecl → List TableEntry
  | .func f => [funcEntry f]
  | .gen g => groupEntries g

theorem collect_eq (file : SourceFile) :
    collect file = (file.decls.flatMap declEntries).foldl add {} := by
  rw [List.foldl_flatMap]
  unfold collect
  congr
  funext t d
  cases d <;> rfl

theorem owners_foldl_insert (ns : List Ident) (m : Std.TreeMap Nat Nat) (v k : Nat) :
    (ns.foldl (fun m n => m.insert n.pos.start v) m)[k]? =
      if k ∈ ns.map (·.pos.start) then some v else m[k]? := by
  induction ns generalizing m with
  | nil => simp
  | cons n ns ih =>
      rw [List.foldl_cons, ih, Std.TreeMap.getElem?_insert]
      by_cases hn : k = n.pos.start
      · simp [hn]
      · have hn' : n.pos.start ≠ k := Ne.symm hn
        simp [hn, hn']

@[simp] theorem entries_add (t : DeclTable) (e : TableEntry) :
    (t.add e).entries = t.entries.push e := rfl

theorem owner_add (t : DeclTable) (e : TableEntry) (k : Nat) :
    (t.add e).owner k = if k ∈ e.positions then some t.entries.size else t.owner k :=
  owners_foldl_insert e.names t.owners t.entries.size k

theorem positions_add (t : DeclTable) (e : TableEntry) :
    (t.add e).positions = t.positions ++ e.positions := by
  simp [positions]

/-- The owner of every name is found by `owner` as long as no offset repeats. -/
theorem owner_iff_of_nodup (es : List TableEntry) (t : DeclTable)
    (ht : t.positions.Nodup → ∀ k o, t.owner k = some o ↔
      ∃ e, t.entries[o]? = some e ∧ k ∈ e.positions)
    (hnodup : (es.foldl add t).positions.Nodup) (k o : Nat) :
    (es.foldl add t).owner k = some o ↔
      ∃ e, (es.foldl add t).entries[o]? = some e ∧ k ∈ e.positions := by
  induction es generalizing t with
  | nil => exact ht hnodup k o
  | cons e es ih =>
      apply ih (t.add e) _ hnodup
      intro hadd k o
      rw [positions_add, List.nodup_append] at hadd
      obtain ⟨hold, hnew, hdisj⟩ := hadd
      rw [owner_add, entries_add, Array.getElem?_push]
      by_cases hk : k ∈ e.positions
      · have hfresh : ∀ e' : TableEntry, (∃ i : Nat, t.entries[i]? = some e') → k ∉ e'.positions := by
          rintro e' ⟨i, hi⟩ hk'
          have hmem : k ∈ t.positions :=
            List.mem_flatMap.mpr ⟨e', List.mem_of_getElem? (by simpa using hi), hk'⟩
          exact hdisj _ hmem _ hk rfl
        simp only [hk, if_true, Option.some.injEq]
        constructor
        · rintro rfl
          exact ⟨e, by simp, hk⟩
        · rintro ⟨e', he', hk'⟩
          split at he'
          · rename_i hsize
            exact hsize.symm
          · exact absurd hk' (hfresh e' ⟨o, he'⟩)
      · simp only [hk, if_false]
        rw [ht hold]
        constructor
        · rintro ⟨e', he', hk'⟩
          have hlt : o < t.entries.size := (Array.getElem?_eq_some_iff.mp he').1
          exact ⟨e', by rw [if_neg (by omega)]; exact he', hk'⟩
        · rintro ⟨e', he', hk'⟩
          split at he'
          · simp only [Option.some.injEq] at he'
            subst he'
            exact absurd hk' hk
          · exact ⟨e', he', hk'⟩

/-- What a declaration contributes: a function its own entry; a group one entry per spec
that declares names, keyed by its first name, with the spec's doc or else the group's. -/
theorem mem_declEntries {d : TopDecl} {e : TableEntry} (he : e ∈ declEntries d) :
    (∃ f, d = .func f ∧ e = funcEntry f) ∨
      ∃ g s kind first rest, d = .gen g ∧ s ∈ g.specs ∧
        e = ⟨kind, .spec g s, first.pos.start, first :: rest, none, s.doc.or g.doc⟩ := by
  cases d with
  | func f =>
      simp only [declEntries, List.mem_singleton] at he
      exact .inl ⟨f, rfl, he⟩
  | gen g =>
      simp only [declEntries, groupEntries] at he
      split at he
      · simp at he
      · obtain ⟨s, hs, hse⟩ := List.mem_filterMap.mp he
        split at hse
        · simp at hse
        · rename_i first rest hnames
          rw [hnames] at hse
          exact .inr ⟨g, s, _, first, rest, rfl, hs, (Option.some.inj hse).symm⟩

theorem key_eq_of_mem_declEntries {d : TopDecl} {e : TableEntry} (he : e ∈ declEntries d) :
    ∃ n rest, e.names = n :: rest ∧ e.key = n.pos.start := by
  rcases mem_declEntries he with ⟨f, -, rfl⟩ | ⟨g, s, kind, first, rest, -, -, rfl⟩
  · exact ⟨f.name, [], rfl, rfl⟩
  · exact ⟨first, rest, rfl, rfl⟩

theorem entries_foldl_add (es : List TableEntry) (t : DeclTable) :
    (es.foldl add t).entries.toList = t.entries.toList ++ es := by
  induction es generalizing t with
  | nil => simp
  | cons e es ih => simp [ih]

/-- The entries of a file's table, declaration by declaration. -/
theorem entries_collect (file : SourceFile) :
    (collect file).entries.toList = file.decls.flatMap declEntries := by
  rw [collect_eq, entries_foldl_add]
  rfl

/-- The table of a file whose declared names stand at distinct offsets is well formed. -/
theorem collect_wellFormed (file : SourceFile) (hnodup : (collect file).positions.Nodup) :
    (collect file).WellFormed := by
  rw [collect_eq] at hnodup ⊢
  refine ⟨hnodup, ?_, ?_⟩
  · intro i e he
    rw [← Array.getElem?_toList, entries_foldl_add] at he
    obtain ⟨d, -, hd⟩ := List.mem_flatMap.mp (List.mem_of_getElem? (by simpa using he))
    exact key_eq_of_mem_declEntries hd
  · intro k o
    apply owner_iff_of_nodup _ {} _ hnodup
    intro _ k o
    simp [owner]

/-! ## Consequences of well-formedness -/

variable {t : DeclTable} (wf : t.WellFormed)
include wf

theorem WellFormed.key_mem {i : Nat} {e : TableEntry} (he : t.entries[i]? = some e) :
    e.key ∈ e.positions := by
  obtain ⟨n, rest, hnames, hkey⟩ := wf.key_eq he
  simp [TableEntry.positions, hnames, hkey]

theorem WellFormed.owner_of_mem {i k : Nat} {e : TableEntry} (he : t.entries[i]? = some e)
    (hk : k ∈ e.positions) : t.owner k = some i :=
  wf.owner_iff.mpr ⟨e, he, hk⟩

/-- Two entries that declare a name at one offset are one entry. -/
theorem WellFormed.eq_of_mem {i j k : Nat} {e e' : TableEntry} (he : t.entries[i]? = some e)
    (he' : t.entries[j]? = some e') (hk : k ∈ e.positions) (hk' : k ∈ e'.positions) :
    i = j := by
  have h := wf.owner_of_mem he hk
  rw [wf.owner_of_mem he' hk'] at h
  exact (Option.some.inj h).symm

/-- Two entries with one key are one entry. -/
theorem WellFormed.eq_of_key_eq {i j : Nat} {e e' : TableEntry} (he : t.entries[i]? = some e)
    (he' : t.entries[j]? = some e') (hkey : e.key = e'.key) : i = j :=
  wf.eq_of_mem he he' (wf.key_mem he) (hkey ▸ wf.key_mem he')

/-- The names of one entry stand at distinct offsets. -/
theorem WellFormed.positions_nodup {i : Nat} {e : TableEntry} (he : t.entries[i]? = some e) :
    e.positions.Nodup := by
  have hmem : e ∈ t.entries.toList := List.mem_of_getElem? (by simpa using he)
  exact (List.nodup_flatMap.mp wf.nodup).1 e hmem

/-- `owner` only names entries of the table. -/
theorem WellFormed.entry_of_owner {k o : Nat} (ho : t.owner k = some o) :
    ∃ e, t.entries[o]? = some e ∧ k ∈ e.positions :=
  wf.owner_iff.mp ho

end DeclTable

end GoTemplates.Specialize
