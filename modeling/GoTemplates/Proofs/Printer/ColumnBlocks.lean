import GoTemplates.Printer.Basic
import Mathlib.Algebra.Order.Interval.Finset.SuccPred
import Mathlib.Order.Interval.Finset.Nat
import Mathlib.Data.Nat.SuccPred
import Mathlib.Data.Finset.Lattice.Fold
import Mathlib.Order.Lattice.Nat

/-! # Column blocks of aligned rows

A run of rows of cells is aligned the way gofmt's tab writer aligns it. A cell followed
by another cell in its row is aligned. A block of column `c` is a maximal range of
consecutive rows that each have an aligned cell in column `c` (`Block`). Every aligned
cell of the block is padded to the width of the widest one plus one space, and a block
whose cells are all empty takes no room.

`formatBlock` finds the blocks of column `c` only inside the blocks of column `c - 1`,
scanning each with `terminatedRuns`. That is the same as taking the blocks of every
column on their own. A row with an aligned cell in column `c + 1` has one in column `c`
(`terminatedAt_of_le`), so the rows just outside a block of column `c` bound the
blocks of every later column too (`Fenced`).

The width `columnWidths` gives each aligned cell is the padded width of its block
(`columnWidths_follow_blocks`). The recursion over columns goes no deeper than the longest
row: with more steps than that, the result is the same.
-/

namespace GoTemplates.Printer

/-! ## Blocks -/

/-- `[s, e)` is a block of column `c` within rows `[lo, hi)`: a nonempty range of
consecutive rows that each have an aligned cell in column `c`, bounded on each side by a
row without one or by the end of `[lo, hi)`. -/
structure Block (rows : Array (List String)) (c lo hi s e : Nat) : Prop where
  lo_le : lo ≤ s
  lt : s < e
  le_hi : e ≤ hi
  terminated : ∀ i, s ≤ i → i < e → terminatedAt (rows.getD i []) c = true
  first : s = lo ∨ terminatedAt (rows.getD (s - 1) []) c = false
  last : e = hi ∨ terminatedAt (rows.getD e []) c = false

/-- Rows `[lo, hi)` are fenced at column `c`: each row just outside them has no aligned
cell in column `c`, unless `[lo, hi)` reaches that end of the rows. -/
structure Fenced (rows : Array (List String)) (c lo hi : Nat) : Prop where
  le : lo ≤ hi
  le_size : hi ≤ rows.size
  first : lo = 0 ∨ terminatedAt (rows.getD (lo - 1) []) c = false
  last : hi = rows.size ∨ terminatedAt (rows.getD hi []) c = false

/-- The character count of the cell of row `r` in column `c`; 0 where there is none. -/
def cellWidth (rows : Array (List String)) (r c : Nat) : Nat :=
  charCount ((rows.getD r []).getD c "")

/-- The width of the widest cell of column `c` in rows `[s, e)`. -/
def blockWidth (rows : Array (List String)) (c s e : Nat) : Nat :=
  (Finset.Ico s e).sup fun i => cellWidth rows i c

/-- A width with one space of padding; no width stays none. -/
def padWidth (w : Nat) : Nat := if w = 0 then 0 else w + 1

/-- The width given to the cell of row `r` in column `c`; 0 where there is none. -/
def entry (w : Array (Array Nat)) (r c : Nat) : Nat := (w.getD r #[]).getD c 0

section Blocks

variable {rows : Array (List String)}

/-- A row with an aligned cell in a column has one in every column before it. -/
theorem terminatedAt_of_le {row : List String} {c c' : Nat} (hc : c ≤ c')
    (h : terminatedAt row c' = true) : terminatedAt row c = true := by
  simp only [terminatedAt, decide_eq_true_eq] at h ⊢
  omega

/-- A row without an aligned cell in a column has none later. -/
theorem not_terminatedAt_of_le {row : List String} {c c' : Nat} (hc : c ≤ c')
    (h : terminatedAt row c = false) : terminatedAt row c' = false := by
  cases hc' : terminatedAt row c' with
  | false => rfl
  | true => rw [terminatedAt_of_le hc hc'] at h; cases h

theorem Fenced.mono {c c' lo hi : Nat} (h : Fenced rows c lo hi) (hc : c ≤ c') :
    Fenced rows c' lo hi :=
  ⟨h.le, h.le_size, h.first.imp_right (not_terminatedAt_of_le hc),
    h.last.imp_right (not_terminatedAt_of_le hc)⟩

theorem Fenced.whole (rows : Array (List String)) (c : Nat) : Fenced rows c 0 rows.size :=
  ⟨Nat.zero_le _, Nat.le_refl _, .inl rfl, .inl rfl⟩

/-- A block within fenced rows is a block of the whole table. -/
theorem Block.whole {c lo hi s e : Nat} (hb : Block rows c lo hi s e) (hf : Fenced rows c lo hi) :
    Block rows c 0 rows.size s e where
  lo_le := Nat.zero_le _
  lt := hb.lt
  le_hi := Nat.le_trans hb.le_hi hf.le_size
  terminated := hb.terminated
  first := by
    rcases hb.first with rfl | h
    · exact hf.first
    · exact .inr h
  last := by
    rcases hb.last with rfl | h
    · exact hf.last
    · exact .inr h

/-- The rows of a block are fenced at its column. -/
theorem Block.fenced {c s e : Nat} (hb : Block rows c 0 rows.size s e) : Fenced rows c s e :=
  ⟨Nat.le_of_lt hb.lt, hb.le_hi, hb.first, hb.last⟩

/-- A block that starts before another ends starts and stops no later than it: the row
just outside it would otherwise lie inside the other. -/
theorem Block.le_of_lt {c lo hi s e s' e' : Nat} (h : Block rows c lo hi s e)
    (h' : Block rows c lo hi s' e') (hlt : s < e') : s ≤ s' ∧ e ≤ e' := by
  constructor
  · refine Nat.le_of_not_lt fun hs => ?_
    have hin := h'.terminated (s - 1) (by omega) (by omega)
    rcases h.first with hs0 | hout
    · have := h'.lo_le; omega
    · rw [hin] at hout; cases hout
  · refine Nat.le_of_not_lt fun he => ?_
    have hin := h.terminated e' (by omega) he
    rcases h'.last with he0 | hout
    · have := h.le_hi; omega
    · rw [hin] at hout; cases hout

/-- A row lies in one block of a column at most. -/
theorem Block.unique {c lo hi s e s' e' r : Nat} (h : Block rows c lo hi s e)
    (h' : Block rows c lo hi s' e') (hr : s ≤ r ∧ r < e) (hr' : s' ≤ r ∧ r < e') :
    s = s' ∧ e = e' := by
  obtain ⟨hs, he⟩ := h.le_of_lt h' (by omega)
  obtain ⟨hs', he'⟩ := h'.le_of_lt h (by omega)
  exact ⟨Nat.le_antisymm hs hs', Nat.le_antisymm he he'⟩

end Blocks

/-! ## Scanning for runs -/

section Scan

variable {rows : Array (List String)} {col lo hi : Nat}

/-- What the scan for runs knows after rows `[lo, k)`. The runs it closed are blocks,
latest first and apart, and end before the open run starts. The open run starts at a
fenced row and every row since is terminated; with no run open the last row was not. Every
terminated row so far lies in a closed run or in the open one. -/
structure Scanned (rows : Array (List String)) (col lo hi k : Nat)
    (acc : List (Nat × Nat) × Option Nat) : Prop where
  le : lo ≤ k
  block : ∀ p ∈ acc.1, Block rows col lo hi p.1 p.2
  sorted : acc.1.Pairwise fun p q => q.2 < p.1
  before : ∀ p ∈ acc.1, p.2 < acc.2.getD k
  opened : ∀ s, acc.2 = some s →
    lo ≤ s ∧ s < k ∧ (∀ i, s ≤ i → i < k → terminatedAt (rows.getD i []) col = true) ∧
      (s = lo ∨ terminatedAt (rows.getD (s - 1) []) col = false)
  closed : acc.2 = none → k = lo ∨ terminatedAt (rows.getD (k - 1) []) col = false
  covered : ∀ i, lo ≤ i → i < k → terminatedAt (rows.getD i []) col = true →
    (∃ p ∈ acc.1, p.1 ≤ i ∧ i < p.2) ∨ ∃ s, acc.2 = some s ∧ s ≤ i

theorem scanned_start : Scanned rows col lo hi lo ([], none) where
  le := Nat.le_refl lo
  block := by simp
  sorted := List.Pairwise.nil
  before := by simp
  opened := by simp
  closed := fun _ => .inl rfl
  covered := fun i h h' => absurd h' (Nat.not_lt.mpr h)

/-- One row of the scan keeps what it knows, one row further. -/
theorem Scanned.step {k : Nat} {acc : List (Nat × Nat) × Option Nat}
    (h : Scanned rows col lo hi k acc) (hk : k < hi) :
    Scanned rows col lo hi (k + 1) (runScanStep rows col acc k) := by
  obtain ⟨runs, open_⟩ := acc
  have hle := h.le
  cases open_ with
  | none =>
    cases ht : terminatedAt (rows.getD k []) col with
    | true =>
      -- a terminated row opens a run
      simp only [runScanStep, ht, if_true]
      refine ⟨by omega, h.block, h.sorted, fun p hp => h.before p hp, ?_, by simp, ?_⟩
      · rintro s ⟨⟩
        refine ⟨hle, by omega, fun i hi hi' => by rwa [show i = k by omega], ?_⟩
        rcases h.closed rfl with hk | hk
        · exact .inl hk
        · exact .inr hk
      · intro i hi hi' hti
        rcases Nat.lt_or_ge i k with hik | hik
        · rcases h.covered i hi hik hti with hp | ⟨s, hs, -⟩
          · exact .inl hp
          · cases hs
        · exact .inr ⟨k, rfl, hik⟩
    | false =>
      -- any other row leaves the scan closed
      simp only [runScanStep, ht, Bool.false_eq_true, if_false]
      refine ⟨by omega, h.block, h.sorted, fun p hp => ?_, by simp, fun _ => .inr ht, ?_⟩
      · have := h.before p hp
        simp only [Option.getD_none] at this ⊢
        omega
      · intro i hi hi' hti
        rcases Nat.lt_or_ge i k with hik | hik
        · exact h.covered i hi hik hti
        · rw [show i = k by omega, ht] at hti
          cases hti
  | some s =>
    obtain ⟨hs, hsk, hrun, hfirst⟩ := h.opened s rfl
    cases ht : terminatedAt (rows.getD k []) col with
    | true =>
      -- a terminated row extends the open run
      simp only [runScanStep, ht, if_true]
      refine ⟨by omega, h.block, h.sorted, h.before, ?_, by simp, ?_⟩
      · rintro s' ⟨⟩
        refine ⟨hs, by omega, fun i hi hi' => ?_, hfirst⟩
        rcases Nat.lt_or_ge i k with hik | hik
        · exact hrun i hi hik
        · rwa [show i = k by omega]
      · intro i hi hi' hti
        rcases Nat.lt_or_ge i k with hik | hik
        · exact h.covered i hi hik hti
        · exact .inr ⟨s, rfl, by omega⟩
    | false =>
      -- any other row closes the open run, which is then a block
      simp only [runScanStep, ht, Bool.false_eq_true, if_false]
      have hblock : Block rows col lo hi s k := ⟨hs, hsk, Nat.le_of_lt hk, hrun, hfirst, .inr ht⟩
      refine ⟨by omega, ?_, ?_, ?_, by simp, fun _ => .inr ht, ?_⟩
      · simp only [List.mem_cons, forall_eq_or_imp]
        exact ⟨hblock, h.block⟩
      · exact List.Pairwise.cons (fun q hq => h.before q hq) h.sorted
      · simp only [List.mem_cons, forall_eq_or_imp, Option.getD_none]
        exact ⟨Nat.lt_succ_self k, fun p hp => by have := h.before p hp; simp at this; omega⟩
      · intro i hi hi' hti
        rcases Nat.lt_or_ge i k with hik | hik
        · rcases h.covered i hi hik hti with ⟨p, hp, hpi⟩ | ⟨s', hs', hsi⟩
          · exact .inl ⟨p, List.mem_cons_of_mem _ hp, hpi⟩
          · cases hs'
            exact .inl ⟨(s, k), List.mem_cons_self, hsi, hik⟩
        · rw [show i = k by omega, ht] at hti
          cases hti

/-- The scan over rows `[k, k + n)` keeps what it knows. -/
theorem Scanned.run {n k : Nat} {acc : List (Nat × Nat) × Option Nat}
    (h : Scanned rows col lo hi k acc) (hn : k + n ≤ hi) :
    Scanned rows col lo hi (k + n) ((List.range' k n).foldl (runScanStep rows col) acc) := by
  induction n generalizing k acc with
  | zero => simpa using h
  | succ n ih =>
    rw [List.range'_succ, List.foldl_cons, show k + (n + 1) = k + 1 + n by omega]
    exact ih (h.step (by omega)) (by omega)

/-- The runs the scan finds are blocks of `[lo, hi)`, in order and apart, and every
terminated row of `[lo, hi)` lies in one of them. -/
theorem terminatedRuns_spec (h : lo ≤ hi) :
    (∀ p ∈ terminatedRuns rows lo hi col, Block rows col lo hi p.1 p.2) ∧
      (terminatedRuns rows lo hi col).Pairwise (fun p q => p.2 < q.1) ∧
      ∀ i, lo ≤ i → i < hi → terminatedAt (rows.getD i []) col = true →
        ∃ p ∈ terminatedRuns rows lo hi col, p.1 ≤ i ∧ i < p.2 := by
  have hs : Scanned rows col lo hi (lo + (hi - lo))
      ((List.range' lo (hi - lo)).foldl (runScanStep rows col) ([], none)) :=
    scanned_start.run (by omega)
  rw [Nat.add_sub_cancel' h] at hs
  unfold terminatedRuns
  generalize (List.range' lo (hi - lo)).foldl (runScanStep rows col) ([], none) = acc at hs
  obtain ⟨runs, open_⟩ := acc
  cases open_ with
  | none =>
    refine ⟨fun p hp => hs.block p (List.mem_reverse.mp hp), List.pairwise_reverse.mpr hs.sorted,
      fun i hlo hhi hti => ?_⟩
    rcases hs.covered i hlo hhi hti with ⟨p, hp, hpi⟩ | ⟨s, hs', -⟩
    · exact ⟨p, List.mem_reverse.mpr hp, hpi⟩
    · cases hs'
  | some s =>
    -- the run still open at the end is closed by the end of the rows
    obtain ⟨hs0, hshi, hrun, hfirst⟩ := hs.opened s rfl
    have hblock : Block rows col lo hi s hi := ⟨hs0, hshi, Nat.le_refl hi, hrun, hfirst, .inl rfl⟩
    refine ⟨fun p hp => ?_, List.pairwise_reverse.mpr
      (List.Pairwise.cons (fun q hq => hs.before q hq) hs.sorted), fun i hlo hhi hti => ?_⟩
    · rcases List.mem_cons.mp (List.mem_reverse.mp hp) with rfl | hp
      · exact hblock
      · exact hs.block p hp
    · rcases hs.covered i hlo hhi hti with ⟨p, hp, hpi⟩ | ⟨s', hs', hsi⟩
      · exact ⟨p, List.mem_reverse.mpr (List.mem_cons_of_mem _ hp), hpi⟩
      · cases hs'
        exact ⟨(s, hi), List.mem_reverse.mpr List.mem_cons_self, hsi, hhi⟩

/-- Every aligned cell lies in a block of its column. -/
theorem exists_block {r c : Nat} (h : c + 1 < (rows.getD r []).length) :
    ∃ s e, Block rows c 0 rows.size s e ∧ s ≤ r ∧ r < e := by
  have hr : r < rows.size := Nat.lt_of_not_le fun hr => by
    simp [Array.getD_eq_getD_getElem?, Array.getElem?_eq_none hr] at h
  have ht : terminatedAt (rows.getD r []) c = true := by
    simp only [terminatedAt, decide_eq_true_eq]
    omega
  obtain ⟨p, hp, hpr⟩ := (terminatedRuns_spec (Nat.zero_le rows.size)).2.2 r (Nat.zero_le r) hr ht
  exact ⟨p.1, p.2, (terminatedRuns_spec (Nat.zero_le rows.size)).1 p hp, hpr⟩

end Scan

/-! ## Widths of blocks -/

section Widths

variable {rows : Array (List String)}

theorem headD_drop (row : List String) (c : Nat) : (row.drop c).headD "" = row.getD c "" := by
  simp [List.headD_eq_head?_getD, List.head?_drop, List.getD_eq_getElem?_getD]

theorem foldl_max_width (c s n m : Nat) :
    (List.range' s n).foldl
        (fun m i => Nat.max m (charCount (((rows.getD i []).drop c).headD ""))) m =
      max m (blockWidth rows c s (s + n)) := by
  induction n generalizing s m with
  | zero => simp [blockWidth]
  | succ n ih =>
    rw [List.range'_succ, List.foldl_cons, ih, blockWidth, blockWidth,
      ← Finset.insert_Ico_add_one_left_eq_Ico (show s < s + (n + 1) by omega), Finset.sup_insert,
      show s + 1 + n = s + (n + 1) by omega, headD_drop]
    exact max_assoc _ _ _

/-- The width the scan computes for a run is the width of its widest cell. -/
theorem foldl_max_width_eq (c s e : Nat) :
    (List.range' s (e - s)).foldl
        (fun m i => Nat.max m (charCount (((rows.getD i []).drop c).headD ""))) 0 =
      blockWidth rows c s e := by
  rcases Nat.le_total s e with h | h
  · rw [foldl_max_width, Nat.add_sub_cancel' h, Nat.zero_max]
  · simp [Nat.sub_eq_zero_of_le h, blockWidth, Finset.Ico_eq_empty_of_le h]

end Widths

/-! ## Setting widths -/

section SetWidths

variable {w : Array (Array Nat)} {lo hi col v : Nat}

theorem getD_set! (a : Array Nat) (col v c : Nat) :
    (a.set! col v).getD c 0 = if c = col ∧ c < a.size then v else a.getD c 0 := by
  simp only [Array.set!_eq_setIfInBounds, Array.getD_eq_getD_getElem?, Array.getElem?_setIfInBounds]
  by_cases hc : c = col
  · subst hc
    by_cases hs : c < a.size <;> simp [hs]
  · simp [hc, Ne.symm hc]

theorem getD_modify_set (i r : Nat) :
    (w.modify i (·.set! col v)).getD r #[] =
      if i = r then (w.getD r #[]).set! col v else w.getD r #[] := by
  simp only [Array.getD_eq_getD_getElem?, Array.getElem?_modify]
  by_cases h : i = r
  · subst h
    cases w[i]? <;> simp
  · simp [h]

theorem size_foldl_modify (f : Array Nat → Array Nat) (l : List Nat) :
    (l.foldl (fun ws i => ws.modify i f) w).size = w.size := by
  induction l generalizing w with
  | nil => rfl
  | cons i l ih => rw [List.foldl_cons, ih, Array.size_modify]

theorem getD_foldl_modify_set (k n r : Nat) :
    ((List.range' k n).foldl (fun ws i => ws.modify i (·.set! col v)) w).getD r #[] =
      if k ≤ r ∧ r < k + n then (w.getD r #[]).set! col v else w.getD r #[] := by
  induction n generalizing k w with
  | zero => rw [List.range'_zero, List.foldl_nil, if_neg (by omega)]
  | succ n ih =>
    rw [List.range'_succ, List.foldl_cons, ih, getD_modify_set]
    by_cases hkr : k = r
    · -- the row is set by this step and left alone by the later ones
      subst hkr
      rw [if_neg (by omega), if_pos rfl, if_pos (by omega)]
    · simp only [if_neg hkr]
      by_cases hr : k ≤ r ∧ r < k + (n + 1)
      · rw [if_pos (by omega), if_pos hr]
      · rw [if_neg (by omega), if_neg hr]

theorem size_setWidths : (setWidths w lo hi col v).size = w.size :=
  size_foldl_modify _ _

/-- `setWidths` sets column `col` of each row of `[lo, hi)`, and changes nothing else. -/
theorem getD_setWidths (r : Nat) :
    (setWidths w lo hi col v).getD r #[] =
      if lo ≤ r ∧ r < hi then (w.getD r #[]).set! col v else w.getD r #[] := by
  rw [setWidths, getD_foldl_modify_set]
  by_cases hr : lo ≤ r ∧ r < hi
  · rw [if_pos (by omega), if_pos hr]
  · rw [if_neg (by omega), if_neg hr]

theorem entry_setWidths (r c : Nat) :
    entry (setWidths w lo hi col v) r c =
      if lo ≤ r ∧ r < hi ∧ c = col ∧ c < (w.getD r #[]).size then v else entry w r c := by
  simp only [entry, getD_setWidths]
  by_cases hr : lo ≤ r ∧ r < hi
  · rw [if_pos hr, getD_set!]
    simp only [hr, true_and]
  · rw [if_neg hr, if_neg (by tauto)]

theorem size_getD_setWidths (r : Nat) :
    ((setWidths w lo hi col v).getD r #[]).size = (w.getD r #[]).size := by
  rw [getD_setWidths]
  split
  · exact Array.size_setIfInBounds
  · rfl

end SetWidths

/-! ## Filling in the widths -/

/-- Widths with one entry for each aligned cell of each row. -/
structure Shaped (rows : Array (List String)) (w : Array (Array Nat)) : Prop where
  size : w.size = rows.size
  row_size : ∀ r, (w.getD r #[]).size = (rows.getD r []).length - 1

/-- The width of the cell of row `r` in column `c` is the padded width of the block of
column `c` around it, if there is one. -/
def Fits (rows : Array (List String)) (w : Array (Array Nat)) (r c : Nat) : Prop :=
  ∀ s e, Block rows c 0 rows.size s e → s ≤ r → r < e →
    entry w r c = padWidth (blockWidth rows c s e)

/-- `w'` is `w` with the widths of rows `[lo, hi)` filled in from column `col` on: each
cell there fits its block, and every other entry is kept. -/
structure Fills (rows : Array (List String)) (w w' : Array (Array Nat)) (lo hi col : Nat) :
    Prop where
  shaped : Shaped rows w'
  outside : ∀ r c, (r < lo ∨ hi ≤ r ∨ c < col) → entry w' r c = entry w r c
  fits : ∀ r c, lo ≤ r → r < hi → col ≤ c → Fits rows w' r c

section Recursion

variable {rows : Array (List String)}

theorem shaped_setWidths {w : Array (Array Nat)} {lo hi col v : Nat} (h : Shaped rows w) :
    Shaped rows (setWidths w lo hi col v) :=
  ⟨size_setWidths.trans h.size, fun r => (size_getD_setWidths r).trans (h.row_size r)⟩

theorem Fits.congr {w w' : Array (Array Nat)} {r c : Nat} (h : entry w' r c = entry w r c)
    (hf : Fits rows w r c) : Fits rows w' r c :=
  fun s e hb hs he => h.trans (hf s e hb hs he)

/-- A cell that is not aligned lies in no block, so any width fits it. -/
theorem fits_of_not_terminated {w : Array (Array Nat)} {r c : Nat}
    (h : terminatedAt (rows.getD r []) c = false) : Fits rows w r c :=
  fun _ _ hb hs he => by rw [hb.terminated r hs he] at h; cases h

/-- One level of the recursion: each run of the column gets its padded width, and the rows
of the run are then filled in from the next column on. -/
theorem formatBlock_succ (fuel : Nat) (w : Array (Array Nat)) (lo hi col : Nat) :
    formatBlock rows (fuel + 1) w lo hi col =
      (terminatedRuns rows lo hi col).foldl (fun w p => formatBlock rows fuel
        (setWidths w p.1 p.2 col (padWidth (blockWidth rows col p.1 p.2))) p.1 p.2 (col + 1)) w := by
  simp only [formatBlock, foldl_max_width_eq, padWidth, beq_iff_eq]

/-- One run of a column: its rows get the run's padded width in the column, and whatever
fills them in from the next column on keeps that width. -/
theorem fills_run {w w' : Array (Array Nat)} {col s e : Nat} (hw : Shaped rows w)
    (hb : Block rows col 0 rows.size s e)
    (hnext : Fills rows (setWidths w s e col (padWidth (blockWidth rows col s e))) w' s e (col + 1)) :
    Fills rows w w' s e col where
  shaped := hnext.shaped
  outside r c hrc := by
    rw [hnext.outside r c (by omega), entry_setWidths, if_neg (by omega)]
  fits r c hr hr' hc := by
    rcases Nat.lt_or_ge col c with hlt | hle
    · exact hnext.fits r c hr hr' hlt
    · -- the column itself: the block around the row is the run
      obtain rfl : c = col := by omega
      intro s' e' hb' hs' he'
      obtain ⟨rfl, rfl⟩ := hb'.unique hb ⟨hs', he'⟩ ⟨hr, hr'⟩
      have hsize : c < (w.getD r #[]).size := by
        have := hb'.terminated r hr hr'
        simp only [terminatedAt, decide_eq_true_eq] at this
        rw [hw.row_size]
        omega
      rw [hnext.outside r c (.inr (.inr (Nat.lt_succ_self c))), entry_setWidths,
        if_pos ⟨hr, hr', rfl, hsize⟩]

/-- Filling the runs of a column one after another fills each of them: a run fills only
its own rows, and the runs are apart. -/
theorem foldl_fills {g : Array (Array Nat) → Nat × Nat → Array (Array Nat)} {col : Nat}
    {runs : List (Nat × Nat)} {w : Array (Array Nat)}
    (hsorted : runs.Pairwise fun p q => p.2 < q.1)
    (hg : ∀ p ∈ runs, ∀ w, Shaped rows w → Fills rows w (g w p) p.1 p.2 col)
    (hw : Shaped rows w) :
    Shaped rows (runs.foldl g w) ∧
      (∀ r c, (c < col ∨ ∀ p ∈ runs, r < p.1 ∨ p.2 ≤ r) →
        entry (runs.foldl g w) r c = entry w r c) ∧
      ∀ p ∈ runs, ∀ r c, p.1 ≤ r → r < p.2 → col ≤ c → Fits rows (runs.foldl g w) r c := by
  induction runs generalizing w with
  | nil => exact ⟨hw, fun _ _ _ => rfl, by simp⟩
  | cons p ps ih =>
    obtain ⟨hp, hps⟩ := List.pairwise_cons.mp hsorted
    have hf := hg p List.mem_cons_self w hw
    obtain ⟨hshaped, hout, hfits⟩ :=
      ih hps (fun q hq => hg q (List.mem_cons_of_mem _ hq)) hf.shaped
    refine ⟨hshaped, fun r c hrc => ?_, fun q hq r c hr hr' hc => ?_⟩
    · rw [List.foldl_cons, hout r c ?_, hf.outside r c ?_]
      · rcases hrc with hc | hrc
        · exact .inr (.inr hc)
        · exact (hrc p List.mem_cons_self).imp_right .inl
      · exact hrc.imp_right fun hrc q hq => hrc q (List.mem_cons_of_mem _ hq)
    · rw [List.foldl_cons]
      rcases List.mem_cons.mp hq with rfl | hq
      · -- a row of this run: the later runs start after it
        exact (hf.fits r c hr hr' hc).congr
          (hout r c (.inr fun q' hq' => .inl (Nat.lt_trans hr' (hp q' hq'))))
      · exact hfits q hq r c hr hr' hc

/-- `formatBlock` at column `col` over fenced rows fills them in, given fuel for every
column of their longest row. -/
theorem formatBlock_fills (fuel : Nat) {w : Array (Array Nat)} {lo hi col : Nat}
    (hw : Shaped rows w) (hf : Fenced rows col lo hi)
    (hfuel : ∀ r, lo ≤ r → r < hi → (rows.getD r []).length ≤ col + fuel + 1) :
    Fills rows w (formatBlock rows fuel w lo hi col) lo hi col := by
  induction fuel generalizing w lo hi col with
  | zero =>
    -- no row of the range has an aligned cell from column `col` on
    refine ⟨hw, fun _ _ _ => rfl, fun r c hr hr' hc => fits_of_not_terminated ?_⟩
    have := hfuel r hr hr'
    simp only [terminatedAt, decide_eq_false_iff_not]
    omega
  | succ fuel ih =>
    rw [formatBlock_succ]
    obtain ⟨hblocks, hsorted, hcover⟩ := @terminatedRuns_spec rows col lo hi hf.le
    have hruns : ∀ p ∈ terminatedRuns rows lo hi col, ∀ w, Shaped rows w →
        Fills rows w (formatBlock rows fuel (setWidths w p.1 p.2 col
          (padWidth (blockWidth rows col p.1 p.2))) p.1 p.2 (col + 1)) p.1 p.2 col := by
      intro p hp w hw
      have hb := hblocks p hp
      refine fills_run hw (hb.whole hf)
        (ih (shaped_setWidths hw) ((hb.whole hf).fenced.mono (Nat.le_succ col)) fun r hr hr' => ?_)
      have := hfuel r (Nat.le_trans hb.lo_le hr) (Nat.lt_of_lt_of_le hr' hb.le_hi)
      omega
    obtain ⟨hshaped, hout, hfits⟩ := foldl_fills hsorted hruns hw
    refine ⟨hshaped, fun r c hrc => hout r c ?_, fun r c hr hr' hc => ?_⟩
    · -- rows outside the range are outside every run
      rcases hrc with h | h | h
      · exact .inr fun p hp => .inl (Nat.lt_of_lt_of_le h (hblocks p hp).lo_le)
      · exact .inr fun p hp => .inr (Nat.le_trans (hblocks p hp).le_hi h)
      · exact .inl h
    · cases ht : terminatedAt (rows.getD r []) col with
      | true =>
        obtain ⟨p, hp, hpr⟩ := hcover r hr hr' ht
        exact hfits p hp r c hpr.1 hpr.2 hc
      | false => exact fits_of_not_terminated (not_terminatedAt_of_le hc ht)

end Recursion

/-! ## Column widths -/

section ColumnWidths

variable {rows : Array (List String)}

theorem le_foldl_max (l : List (List String)) (m : Nat) :
    m ≤ l.foldl (fun m r => Nat.max m r.length) m ∧
      ∀ row ∈ l, row.length ≤ l.foldl (fun m r => Nat.max m r.length) m := by
  induction l generalizing m with
  | nil => simp
  | cons x l ih =>
    obtain ⟨hm, hrows⟩ := ih (Nat.max m x.length)
    refine ⟨Nat.le_trans (Nat.le_max_left m x.length) hm, fun row hrow => ?_⟩
    rcases List.mem_cons.mp hrow with rfl | hrow
    · exact Nat.le_trans (Nat.le_max_right m row.length) hm
    · exact hrows row hrow

/-- No row is longer than the count of columns `columnWidths` takes. -/
theorem length_le_columns (r : Nat) :
    (rows.getD r []).length ≤ rows.foldl (fun m r => Nat.max m r.length) 0 := by
  rw [← Array.foldl_toList]
  by_cases hr : r < rows.size
  · rw [Array.getD_eq_getD_getElem?, Array.getElem?_eq_getElem hr, Option.getD_some]
    exact (le_foldl_max rows.toList 0).2 _ (Array.getElem_mem_toList hr)
  · simp [Array.getD_eq_getD_getElem?, Array.getElem?_eq_none (Nat.le_of_not_lt hr)]

/-- The widths `columnWidths` starts from: a zero for each aligned cell. -/
theorem shaped_initial (rows : Array (List String)) :
    Shaped rows (rows.map fun r => Array.replicate (r.length - 1) 0) where
  size := Array.size_map ..
  row_size r := by
    simp only [Array.getD_eq_getD_getElem?, Array.getElem?_map]
    cases rows[r]? <;> simp

/-- With fuel for every column of the longest row, `formatBlock` fills in the whole table. -/
theorem formatBlock_fills_initial {fuel : Nat} (hfuel : ∀ r, (rows.getD r []).length ≤ fuel + 1) :
    Fills rows (rows.map fun r => Array.replicate (r.length - 1) 0)
      (formatBlock rows fuel (rows.map fun r => Array.replicate (r.length - 1) 0) 0 rows.size 0)
      0 rows.size 0 :=
  formatBlock_fills fuel (shaped_initial rows) (Fenced.whole rows 0) fun r _ _ => by
    have := hfuel r
    omega

theorem columnWidths_fills :
    Fills rows (rows.map fun r => Array.replicate (r.length - 1) 0) (columnWidths rows)
      0 rows.size 0 :=
  formatBlock_fills_initial fun r => by
    have := @length_le_columns rows r
    omega

theorem entry_eq_getElem {w : Array (Array Nat)} {r c : Nat} (hr : r < w.size)
    (hc : c < w[r].size) : entry w r c = w[r][c] := by
  simp [entry, Array.getD_eq_getD_getElem?, hr, hc]

/-- Widths filled in over the whole table are determined: each aligned cell has the
width of its block, and there are no other entries. -/
theorem Fills.eq {w w₁ w₂ : Array (Array Nat)} (h₁ : Fills rows w w₁ 0 rows.size 0)
    (h₂ : Fills rows w w₂ 0 rows.size 0) : w₁ = w₂ := by
  refine Array.ext (h₁.shaped.size.trans h₂.shaped.size.symm) fun r hr₁ hr₂ => ?_
  have hsize₁ := h₁.shaped.row_size r
  have hsize₂ := h₂.shaped.row_size r
  rw [← Array.getElem_eq_getD (h := hr₁)] at hsize₁
  rw [← Array.getElem_eq_getD (h := hr₂)] at hsize₂
  refine Array.ext (hsize₁.trans hsize₂.symm) fun c hc₁ hc₂ => ?_
  have hr : r < rows.size := h₁.shaped.size ▸ hr₁
  obtain ⟨s, e, hb, hs, he⟩ := exists_block (show c + 1 < (rows.getD r []).length by omega)
  have e₁ := h₁.fits r c (Nat.zero_le r) hr (Nat.zero_le c) s e hb hs he
  have e₂ := h₂.fits r c (Nat.zero_le r) hr (Nat.zero_le c) s e hb hs he
  rw [entry_eq_getElem hr₁ hc₁] at e₁
  rw [entry_eq_getElem hr₂ hc₂] at e₂
  rw [e₁, e₂]

/-- The widths of aligned rows. There is an entry for each aligned cell, and each aligned
cell lies in a block of its column: a maximal run of rows with an aligned cell there, and
the only one around the row (`Block.unique`). The cell gets the width of the widest cell
of its block plus one space, or none when the block's cells are all empty. The recursion
over columns needs no more steps than the longest row has cells: with more, the widths
are the same. -/
theorem columnWidths_follow_blocks (rows : Array (List String)) :
    (columnWidths rows).size = rows.size ∧
      (∀ r, ((columnWidths rows).getD r #[]).size = (rows.getD r []).length - 1) ∧
      (∀ r c, c + 1 < (rows.getD r []).length →
        ∃ s e, Block rows c 0 rows.size s e ∧ s ≤ r ∧ r < e) ∧
      (∀ r c s e, Block rows c 0 rows.size s e → s ≤ r → r < e →
        entry (columnWidths rows) r c = padWidth (blockWidth rows c s e)) ∧
      ∀ fuel, (∀ r, (rows.getD r []).length ≤ fuel + 1) →
        formatBlock rows fuel (rows.map fun r => Array.replicate (r.length - 1) 0) 0 rows.size 0 =
          columnWidths rows := by
  have hfills := @columnWidths_fills rows
  refine ⟨hfills.shaped.size, hfills.shaped.row_size, fun r c hc => exists_block hc,
    fun r c s e hb hs he => ?_, fun fuel hfuel => (formatBlock_fills_initial hfuel).eq hfills⟩
  exact hfills.fits r c (Nat.zero_le r) (Nat.lt_of_lt_of_le he hb.le_hi) (Nat.zero_le c) s e hb hs he

example : columnWidths #[["ID", "int"], ["Name", "string", "// c"]] = #[#[5], #[5, 7]] := by
  decide +kernel

end ColumnWidths

end GoTemplates.Printer
