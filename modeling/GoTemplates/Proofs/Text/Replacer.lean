import GoTemplates.Text.Replace
import Mathlib.Data.List.Infix

/-! # Left-to-right replacement

A replacer built by `push` from the empty one keeps only pairs whose old text is
nonempty, so every replacement consumes the text it matches. Reading a text, it
applies at each position the first pair, in the order the pairs were added, whose
old text starts the rest, and copies one character where none does (`Rewrites`);
its result is the only such reading.

Replaced text is never read again. So a text cut where no old text runs across the
cut is replaced piece by piece (`scan_append`), and a text in which no old text
occurs is left as it is (`scan_eq_self`).
-/

namespace GoTemplates.Text.Replacer

/-- The replacers that `push` builds from the empty one. -/
inductive Built : Replacer → Prop
  | empty : Built Replacer.empty
  | push {r : Replacer} (old new : String) : Built r → Built (r.push old new)

/-- `push` never keeps an empty old text. -/
theorem Built.old_ne_nil {r : Replacer} (h : r.Built) : ∀ p ∈ r.pairs, p.1 ≠ [] := by
  induction h with
  | empty => simp [Replacer.empty]
  | push old new _ ih =>
    intro p hp
    unfold Replacer.push at hp
    split at hp
    · exact ih p hp
    · rename_i hold
      simp only [List.mem_append, List.mem_singleton] at hp
      rcases hp with hp | rfl
      · exact ih p hp
      · simpa [String.toList_eq_nil_iff, String.isEmpty_iff] using hold

/-! ## The first match -/

section FirstMatch

variable {ps : List (List Char × List Char)}

/-- The pair `p` is the first of `ps` whose old text starts `s`. -/
def FirstPrefix (ps : List (List Char × List Char)) (s : List Char)
    (p : List Char × List Char) : Prop :=
  ∃ pre post, ps = pre ++ p :: post ∧ p.1 <+: s ∧ ∀ q ∈ pre, ¬ q.1 <+: s

/-- A match replaces an old text of a pair that starts the text, and leaves what follows it. -/
theorem firstMatch_sound {s n r : List Char} (h : firstMatch ps s = some (n, r)) :
    ∃ o, (o, n) ∈ ps ∧ s = o ++ r := by
  induction ps with
  | nil => simp [firstMatch] at h
  | cons p ps ih =>
    obtain ⟨o, n'⟩ := p
    cases o with
    | nil =>
      obtain ⟨o, hmem, hs⟩ := ih (by simpa [firstMatch] using h)
      exact ⟨o, List.mem_cons_of_mem _ hmem, hs⟩
    | cons c os =>
      simp only [firstMatch] at h
      split at h
      · rename_i hp
        simp only [Option.some.injEq, Prod.mk.injEq] at h
        obtain ⟨rfl, rfl⟩ := h
        refine ⟨c :: os, List.mem_cons_self, ?_⟩
        exact (List.prefix_iff_eq_append.mp (List.isPrefixOf_iff_prefix.mp hp)).symm
      · obtain ⟨o, hmem, hs⟩ := ih h
        exact ⟨o, List.mem_cons_of_mem _ hmem, hs⟩

/-- With nonempty old texts, a match is made by the first pair whose old text starts the text. -/
theorem firstMatch_first (hne : ∀ p ∈ ps, p.1 ≠ []) {s n r : List Char}
    (h : firstMatch ps s = some (n, r)) : ∃ o, s = o ++ r ∧ FirstPrefix ps s (o, n) := by
  induction ps with
  | nil => simp [firstMatch] at h
  | cons p ps ih =>
    obtain ⟨o', n'⟩ := p
    have hrest : ∀ p ∈ ps, p.1 ≠ [] := fun p hp => hne p (List.mem_cons_of_mem _ hp)
    obtain ⟨c, os, rfl⟩ := List.exists_cons_of_ne_nil (hne _ List.mem_cons_self)
    simp only [firstMatch] at h
    split at h
    · rename_i hp
      simp only [Option.some.injEq, Prod.mk.injEq] at h
      obtain ⟨rfl, rfl⟩ := h
      have hpre := List.isPrefixOf_iff_prefix.mp hp
      refine ⟨c :: os, (List.prefix_iff_eq_append.mp hpre).symm, [], ps, rfl, hpre, by simp⟩
    · rename_i hp
      obtain ⟨o, hs, pre, post, hps, hpre, hfirst⟩ := ih hrest h
      refine ⟨o, hs, (c :: os, n') :: pre, post, by simp [hps], hpre, ?_⟩
      intro q hq
      rcases List.mem_cons.mp hq with rfl | hq
      · simpa [List.isPrefixOf_iff_prefix] using hp
      · exact hfirst q hq

/-- Without a match no pair's nonempty old text starts the text. -/
theorem firstMatch_none (hne : ∀ p ∈ ps, p.1 ≠ []) {s : List Char}
    (h : firstMatch ps s = none) : ∀ p ∈ ps, ¬ p.1 <+: s := by
  induction ps with
  | nil => simp
  | cons p ps ih =>
    obtain ⟨o, n⟩ := p
    have hrest : ∀ p ∈ ps, p.1 ≠ [] := fun p hp => hne p (List.mem_cons_of_mem _ hp)
    obtain ⟨c, os, rfl⟩ := List.exists_cons_of_ne_nil (hne _ List.mem_cons_self)
    simp only [firstMatch] at h
    split at h
    · cases h
    · rename_i hp
      intro q hq
      rcases List.mem_cons.mp hq with rfl | hq
      · simpa [List.isPrefixOf_iff_prefix] using hp
      · exact ih hrest h q hq

/-- The first pair whose nonempty old text starts the text makes the match. -/
theorem firstMatch_of_firstPrefix {o n r : List Char} (ho : o ≠ [])
    (h : FirstPrefix ps (o ++ r) (o, n)) : firstMatch ps (o ++ r) = some (n, r) := by
  obtain ⟨pre, post, rfl, -, hfirst⟩ := h
  induction pre with
  | nil =>
    obtain ⟨c, os, rfl⟩ := List.exists_cons_of_ne_nil ho
    simp [firstMatch]
  | cons q pre ih =>
    have hq := hfirst q List.mem_cons_self
    have ih := ih fun q' hq' => hfirst q' (List.mem_cons_of_mem _ hq')
    obtain ⟨o', n'⟩ := q
    cases o' with
    | nil => exact absurd (List.nil_prefix) hq
    | cons c os =>
      have hp : (c :: os).isPrefixOf (o ++ r) = false :=
        Bool.eq_false_iff.mpr fun hp => hq (List.isPrefixOf_iff_prefix.mp hp)
      simp only [List.cons_append, firstMatch, hp]
      exact ih

/-- When no old text starts the text there is no match. -/
theorem firstMatch_none_of_forall {s : List Char} (h : ∀ p ∈ ps, ¬ p.1 <+: s) :
    firstMatch ps s = none := by
  induction ps with
  | nil => rfl
  | cons p ps ih =>
    have ih := ih fun q hq => h q (List.mem_cons_of_mem _ hq)
    obtain ⟨o, n⟩ := p
    cases o with
    | nil => exact absurd List.nil_prefix (h _ List.mem_cons_self)
    | cons c os =>
      have hp : (c :: os).isPrefixOf s = false := Bool.eq_false_iff.mpr fun hp =>
        h _ List.mem_cons_self (List.isPrefixOf_iff_prefix.mp hp)
      simp only [firstMatch, hp]
      exact ih

end FirstMatch

/-! ## One step of the scan -/

section Scan

variable {ps : List (List Char × List Char)}

theorem scan_nil : scan ps [] = [] := by
  rw [scan]

theorem scan_cons_of_some {c : Char} {cs n r : List Char}
    (h : firstMatch ps (c :: cs) = some (n, r)) : scan ps (c :: cs) = n ++ scan ps r := by
  rw [scan]
  split
  · rename_i n' r' h'
    rw [h] at h'
    simp only [Option.some.injEq, Prod.mk.injEq] at h'
    rw [h'.1, h'.2]
  · rename_i h'
    rw [h] at h'
    cases h'

theorem scan_cons_of_none {c : Char} {cs : List Char} (h : firstMatch ps (c :: cs) = none) :
    scan ps (c :: cs) = c :: scan ps cs := by
  rw [scan]
  split
  · rename_i h'
    rw [h] at h'
    cases h'
  · rfl

/-! ## The scan is the left-to-right reading -/

/-- `Rewrites ps s t`: reading `s` from the left, the first pair whose old text starts the
rest is applied, and where none does one character is copied, giving `t`. -/
inductive Rewrites (ps : List (List Char × List Char)) : List Char → List Char → Prop
  | nil : Rewrites ps [] []
  | replace {o n r t : List Char} :
      FirstPrefix ps (o ++ r) (o, n) → Rewrites ps r t → Rewrites ps (o ++ r) (n ++ t)
  | copy {c : Char} {r t : List Char} :
      (∀ p ∈ ps, ¬ p.1 <+: c :: r) → Rewrites ps r t → Rewrites ps (c :: r) (c :: t)

/-- The scan reads its text left to right. -/
theorem rewrites_scan (hne : ∀ p ∈ ps, p.1 ≠ []) (s : List Char) :
    Rewrites ps s (scan ps s) := by
  fun_induction scan ps s with
  | case1 => exact .nil
  | case2 c cs n r hm _ ih =>
    obtain ⟨o, hs, hfirst⟩ := firstMatch_first hne hm
    rw [hs] at hfirst ⊢
    exact .replace hfirst ih
  | case3 c cs hm ih => exact .copy (firstMatch_none hne hm) ih

/-- The left-to-right reading of a text is the scan. -/
theorem Rewrites.eq_scan (hne : ∀ p ∈ ps, p.1 ≠ []) {s t : List Char} (h : Rewrites ps s t) :
    t = scan ps s := by
  induction h with
  | nil => rw [scan_nil]
  | @replace o n r t hfirst _ ih =>
    have ho : o ≠ [] := by
      obtain ⟨pre, post, hps, -, -⟩ := hfirst
      exact hne (o, n) (by simp [hps])
    have hm := firstMatch_of_firstPrefix ho hfirst
    obtain ⟨c, os, rfl⟩ := List.exists_cons_of_ne_nil ho
    rw [List.cons_append] at hm ⊢
    rw [scan_cons_of_some hm, ih]
  | copy hnone _ ih => rw [scan_cons_of_none (firstMatch_none_of_forall hnone), ih]

/-! ## Cuts and untouched texts -/

/-- The old text `o` runs across the cut between `a` and `b`: it starts inside `a` and
ends inside `b`. -/
def Straddles (o a b : List Char) : Prop :=
  ∃ a₁ a₂ b₁ b₂, a = a₁ ++ a₂ ∧ b = b₁ ++ b₂ ∧ o = a₂ ++ b₁ ∧ a₂ ≠ [] ∧ b₁ ≠ []

/-- What runs across the cut after a suffix of `a` runs across the cut after `a`. -/
theorem Straddles.of_suffix {o a₂ b : List Char} (a₁ : List Char) (h : Straddles o a₂ b) :
    Straddles o (a₁ ++ a₂) b := by
  obtain ⟨x₁, x₂, b₁, b₂, rfl, hb, ho, hx, hb₁⟩ := h
  exact ⟨a₁ ++ x₁, x₂, b₁, b₂, by simp, hb, ho, hx, hb₁⟩

/-- An old text that does not run across the cut starts `a ++ b` only if it starts `a`. -/
theorem prefix_append_iff_of_not_straddles {o a b : List Char} (ha : a ≠ [])
    (h : ¬ Straddles o a b) : o <+: a ++ b ↔ o <+: a := by
  refine ⟨fun hab => ?_, fun hp => hp.trans (List.prefix_append _ _)⟩
  rcases List.prefix_or_prefix_of_prefix hab (List.prefix_append a b) with hoa | ⟨t, rfl⟩
  · exact hoa
  · -- `o` extends `a`; what it takes of `b` must be empty
    have ht : t <+: b := (List.prefix_append_right_inj a).mp hab
    by_cases ht0 : t = []
    · subst ht0
      simp
    · obtain ⟨b₂, rfl⟩ := ht
      exact absurd ⟨[], a, t, b₂, rfl, rfl, rfl, ha, ht0⟩ h

/-- Matching on `a ++ b` is matching on `a` when no old text runs across the cut. -/
theorem firstMatch_append {a b : List Char} (ha : a ≠ [])
    (h : ∀ p ∈ ps, ¬ Straddles p.1 a b) :
    firstMatch ps (a ++ b) = (firstMatch ps a).map fun m => (m.1, m.2 ++ b) := by
  induction ps with
  | nil => rfl
  | cons p ps ih =>
    have ih := ih fun q hq => h q (List.mem_cons_of_mem _ hq)
    obtain ⟨o, n⟩ := p
    cases o with
    | nil => simpa [firstMatch] using ih
    | cons c os =>
      have hiff := prefix_append_iff_of_not_straddles ha (h _ List.mem_cons_self)
      have hbool : (c :: os).isPrefixOf (a ++ b) = (c :: os).isPrefixOf a := by
        rw [Bool.eq_iff_iff, List.isPrefixOf_iff_prefix, List.isPrefixOf_iff_prefix]
        exact hiff
      simp only [firstMatch, hbool]
      split
      · rename_i hp
        have hle := (List.isPrefixOf_iff_prefix.mp hp).length_le
        simp only [Option.map_some, Option.some.injEq, Prod.mk.injEq, true_and]
        exact List.drop_append_of_le_length hle
      · exact ih

/-- A text cut where no old text runs across the cut is replaced piece by piece. -/
theorem scan_append (a b : List Char) (h : ∀ p ∈ ps, ¬ Straddles p.1 a b) :
    scan ps (a ++ b) = scan ps a ++ scan ps b := by
  fun_induction scan ps a with
  | case1 => rfl
  | case2 c cs n r hm _ ih =>
    obtain ⟨o, -, hs⟩ := firstMatch_sound hm
    -- the rest after the match is a suffix, so nothing runs across its cut either
    have hr : ∀ p ∈ ps, ¬ Straddles p.1 r b := fun p hp hst =>
      h p hp (by rw [hs]; exact hst.of_suffix o)
    have hab : firstMatch ps (c :: (cs ++ b)) = some (n, r ++ b) := by
      rw [← List.cons_append, firstMatch_append (List.cons_ne_nil c cs) h, hm]
      rfl
    rw [List.cons_append, scan_cons_of_some hab, ih hr, List.append_assoc]
  | case3 c cs hm ih =>
    have hcs : ∀ p ∈ ps, ¬ Straddles p.1 cs b := fun p hp hst =>
      h p hp (by simpa using hst.of_suffix [c])
    have hab : firstMatch ps (c :: (cs ++ b)) = none := by
      rw [← List.cons_append, firstMatch_append (List.cons_ne_nil c cs) h, hm]
      rfl
    rw [List.cons_append, scan_cons_of_none hab, ih hcs, List.cons_append]

/-- A text in which no old text occurs is left as it is. -/
theorem scan_eq_self (s : List Char) (h : ∀ p ∈ ps, ¬ p.1 <:+: s) : scan ps s = s := by
  fun_induction scan ps s with
  | case1 => rfl
  | case2 c cs n r hm _ _ =>
    obtain ⟨o, hmem, hs⟩ := firstMatch_sound hm
    exact absurd (hs ▸ (List.prefix_append o r).isInfix) (h (o, n) hmem)
  | case3 c cs hm ih =>
    rw [ih fun p hp hin => h p hp (List.infix_cons hin)]

end Scan

/-! ## Replacers -/

/-- A replacer built by `push` keeps only nonempty old texts, so each replacement consumes
text. Applied to a text it is the left-to-right reading that at each position applies the
first pair whose old text starts the rest, else copies a character. It distributes over a
cut that no old text runs across, and leaves a text without old texts unchanged. -/
theorem apply_reads_left_to_right {r : Replacer} (hr : r.Built) :
    (∀ p ∈ r.pairs, p.1 ≠ []) ∧
    (∀ s t : String, Rewrites r.pairs s.toList t.toList ↔ r.apply s = t) ∧
    (∀ a b : String, (∀ p ∈ r.pairs, ¬ Straddles p.1 a.toList b.toList) →
      r.apply (a ++ b) = r.apply a ++ r.apply b) ∧
    (∀ s : String, (∀ p ∈ r.pairs, ¬ p.1 <:+: s.toList) → r.apply s = s) := by
  have hne := hr.old_ne_nil
  refine ⟨hne, fun s t => ⟨fun h => ?_, fun h => ?_⟩, fun a b h => ?_, fun s h => ?_⟩
  · rw [apply, ← h.eq_scan hne, String.ofList_toList]
  · rw [← h, apply, String.toList_ofList]
    exact rewrites_scan hne _
  · rw [apply, apply, apply, String.toList_append, scan_append _ _ h, String.ofList_append]
  · rw [apply, scan_eq_self _ h, String.ofList_toList]

/-- The replacer of the placeholder `Type` for `Concrete`, in both cases, reads every text
left to right. -/
theorem apply_reads_left_to_right_type :
    let r := (Replacer.empty.push "type" "concrete").push "Type" "Concrete"
    r.Built ∧ (∀ p ∈ r.pairs, p.1 ≠ []) ∧
    (∀ s t : String, Rewrites r.pairs s.toList t.toList ↔ r.apply s = t) ∧
    (∀ a b : String, (∀ p ∈ r.pairs, ¬ Straddles p.1 a.toList b.toList) →
      r.apply (a ++ b) = r.apply a ++ r.apply b) ∧
    (∀ s : String, (∀ p ∈ r.pairs, ¬ p.1 <:+: s.toList) → r.apply s = s) := by
  intro r
  have hr : r.Built := .push _ _ (.push _ _ .empty)
  exact ⟨hr, apply_reads_left_to_right hr⟩

end GoTemplates.Text.Replacer
