import GoTemplates.Source.Position

/-! # Looking up lines

The line table of a text holds offset 0 and one past each line feed, in increasing
order. An offset's line is found by a binary search of the table in the standard
library's form: a halving loop over a range that brackets the offset's place
(`Brackets`), then one comparison. On an ascending array the search returns what the
library documents (`binarySearch_ok`, `binarySearch_error`).

On the line table, whose first start is 0, the search never gives line 0, the start it
reads is in the table, and that start is at most the offset (`line_bounds`). The line is
one more than the number of line feeds below the offset, and the column counts from
just after the last of them (`lineCol_counts_line_feeds`).
-/

namespace GoTemplates.Source

/-! ## Binary search -/

/-- The entries of an array never decrease. -/
def Ascending (a : Array Nat) : Prop :=
  ∀ i j, i ≤ j → j < a.size → a.getD i 0 ≤ a.getD j 0

/-- What the halving loop keeps of its range `[base, base + size)`: the range lies in the
array, the entry at `base` is at most `x` unless `base` is 0, and the entry just past the
range exceeds `x` unless the range ends the array. -/
structure Brackets (a : Array Nat) (x base size : Nat) : Prop where
  within : base + size ≤ a.size
  lower : base = 0 ∨ a.getD base 0 ≤ x
  upper : base + size = a.size ∨ x < a.getD (base + size) 0

section Search

variable {a : Array Nat} {x : Nat}

theorem Brackets.whole (a : Array Nat) (x : Nat) : Brackets a x 0 a.size :=
  ⟨by simp, .inl rfl, .inl (by simp)⟩

/-- One halving keeps the bracket: the loop moves `base` to the middle only when the
middle entry is at most `x`, and otherwise keeps the first part, which ends at or past
the middle. -/
theorem Brackets.halve (ha : Ascending a) {base size : Nat} (hb : Brackets a x base size)
    (hs : ¬ size ≤ 1) :
    Brackets a x (if x < a.getD (base + size / 2) 0 then base else base + size / 2)
      (size - size / 2) := by
  have hw := hb.within
  split
  · next hlt =>
    refine ⟨by omega, hb.lower, .inr ?_⟩
    calc x < a.getD (base + size / 2) 0 := hlt
      _ ≤ a.getD (base + (size - size / 2)) 0 := ha _ _ (by omega) (by omega)
  · next hge =>
    have hend : base + size / 2 + (size - size / 2) = base + size := by omega
    refine ⟨by omega, .inr (by omega), ?_⟩
    rw [hend]
    exact hb.upper

/-- The loop ends on a range of one entry that brackets `x`'s place. -/
theorem searchLoop_brackets (ha : Ascending a) {base size : Nat}
    (hb : Brackets a x base size) (hs : 1 ≤ size) :
    Brackets a x (searchLoop a x base size) 1 := by
  fun_induction searchLoop a x base size with
  | case1 base size hle =>
    obtain rfl : size = 1 := by omega
    exact hb
  | case2 base size hgt half mid ih => exact ih (hb.halve ha hgt) (by omega)

/-- The range of one entry the loop ends on, over a nonempty array. -/
theorem binarySearch_base (ha : Ascending a) (hne : a.size ≠ 0) :
    Brackets a x (searchLoop a x 0 a.size) 1 :=
  searchLoop_brackets ha (Brackets.whole a x) (by omega)

/-- A search that succeeds stops at an entry equal to `x`. -/
theorem binarySearch_ok (ha : Ascending a) {i : Nat} (h : binarySearch a x = .ok i) :
    i < a.size ∧ a.getD i 0 = x := by
  unfold binarySearch at h
  split at h
  · cases h
  · next hne =>
    have hb := binarySearch_base (x := x) ha hne
    generalize searchLoop a x 0 a.size = base at h hb
    dsimp only at h
    split at h
    · next heq =>
      cases h
      exact ⟨by have := hb.within; omega, heq⟩
    · cases h

/-- A search that fails gives the place where `x` belongs: every entry before it is
below `x`, every entry from it on is above `x`. -/
theorem binarySearch_error (ha : Ascending a) {i : Nat} (h : binarySearch a x = .error i) :
    i ≤ a.size ∧ (∀ j < i, a.getD j 0 < x) ∧
      (∀ j, i ≤ j → j < a.size → x < a.getD j 0) := by
  unfold binarySearch at h
  split at h
  · cases h
    exact ⟨Nat.zero_le _, fun _ h => absurd h (Nat.not_lt_zero _), fun _ _ h => by omega⟩
  · next hne =>
    have hb := binarySearch_base (x := x) ha hne
    generalize searchLoop a x 0 a.size = base at h hb
    dsimp only at h
    have hw := hb.within
    split at h
    · cases h
    · next hne' =>
      cases h
      split
      · -- the entry is below `x`: its place is just after it
        next hlt =>
        refine ⟨by omega, fun j hj => ?_, fun j hj hja => ?_⟩
        · exact Nat.lt_of_le_of_lt (ha j base (by omega) (by omega)) hlt
        · rcases hb.upper with hend | hup
          · omega
          · exact Nat.lt_of_lt_of_le hup (ha _ _ hj hja)
      · -- the entry is above `x`, so the range never left the first entry
        next hge =>
        have hgt : x < a.getD base 0 := by omega
        have hbase : base = 0 := hb.lower.resolve_right (by omega)
        refine ⟨by omega, fun j hj => by omega, fun j _ hja => ?_⟩
        rw [hbase] at hgt
        exact Nat.lt_of_lt_of_le hgt (ha 0 j (Nat.zero_le _) hja)

/-- A strictly ascending array is ascending. -/
theorem Ascending.of_pairwise (h : a.toList.Pairwise (· < ·)) : Ascending a := by
  intro i j hij hj
  rcases Nat.lt_or_eq_of_le hij with hlt | rfl
  · simp only [Array.getD_eq_getD_getElem?, Array.getElem?_eq_getElem (Nat.lt_trans hlt hj),
      Array.getElem?_eq_getElem hj, Option.getD_some]
    exact Nat.le_of_lt (List.pairwise_iff_getElem.mp h i j (by simpa using Nat.lt_trans hlt hj)
      (by simpa using hj) hlt)
  · exact Nat.le_refl _

theorem getD_lt_getD_of_pairwise (h : a.toList.Pairwise (· < ·)) {i j : Nat} (hij : i < j)
    (hj : j < a.size) : a.getD i 0 < a.getD j 0 := by
  simp only [Array.getD_eq_getD_getElem?, Array.getElem?_eq_getElem (Nat.lt_trans hij hj),
    Array.getElem?_eq_getElem hj, Option.getD_some]
  exact List.pairwise_iff_getElem.mp h i j (by simpa using Nat.lt_trans hij hj)
    (by simpa using hj) hij

end Search

/-- Of a list whose entries before index `l` are at most `o` and whose entries from `l` on
exceed `o`, exactly `l` entries are at most `o`. -/
theorem countP_le_of_split {L : List Nat} {l o : Nat} (hl : l ≤ L.length)
    (hlow : ∀ j < l, L.getD j 0 ≤ o)
    (hhigh : ∀ j, l ≤ j → j < L.length → o < L.getD j 0) :
    L.countP (· ≤ o) = l := by
  rw [← List.take_append_drop l L, List.countP_append]
  have htake : (L.take l).countP (· ≤ o) = l := by
    rw [List.countP_eq_length.mpr, List.length_take_of_le hl]
    intro x hx
    obtain ⟨j, hj, rfl⟩ := List.getElem_of_mem hx
    simp only [List.length_take_of_le hl] at hj
    have := hlow j hj
    simp only [List.getD_eq_getElem?_getD, List.getElem?_eq_getElem (Nat.lt_of_lt_of_le hj hl),
      Option.getD_some] at this
    simpa [List.getElem_take] using this
  have hdrop : (L.drop l).countP (· ≤ o) = 0 := by
    rw [List.countP_eq_zero]
    intro x hx
    obtain ⟨j, hj, rfl⟩ := List.getElem_of_mem hx
    simp only [List.length_drop] at hj
    have := hhigh (l + j) (by omega) (by omega)
    simp only [List.getD_eq_getElem?_getD, List.getElem?_eq_getElem (by omega : l + j < L.length),
      Option.getD_some] at this
    simpa [List.getElem_drop] using this
  simp only [htake, hdrop, Nat.add_zero]

/-! ## The line table -/

namespace LineIndex

/-- One past the index of each line feed of `bytes`, whose first byte has index `k`. -/
def lineFeedEnds : List UInt8 → Nat → List Nat
  | [], _ => []
  | b :: bs, k => if b = 10 then (k + 1) :: lineFeedEnds bs (k + 1) else lineFeedEnds bs (k + 1)

theorem mem_lineFeedEnds {bs : List UInt8} {k n : Nat} :
    n ∈ lineFeedEnds bs k ↔ ∃ i, bs[i]? = some 10 ∧ n = k + i + 1 := by
  induction bs generalizing k with
  | nil => simp [lineFeedEnds]
  | cons b bs ih =>
    constructor
    · intro h
      by_cases hb : b = 10
      · simp only [lineFeedEnds, hb, if_true, List.mem_cons] at h
        rcases h with rfl | h
        · exact ⟨0, by simp [hb], rfl⟩
        · obtain ⟨i, hi, rfl⟩ := ih.mp h
          exact ⟨i + 1, by simpa using hi, by omega⟩
      · simp only [lineFeedEnds, hb, if_false] at h
        obtain ⟨i, hi, rfl⟩ := ih.mp h
        exact ⟨i + 1, by simpa using hi, by omega⟩
    · rintro ⟨i, hi, rfl⟩
      cases i with
      | zero =>
        simp only [List.getElem?_cons_zero, Option.some.injEq] at hi
        simp [lineFeedEnds, hi]
      | succ i =>
        have hmem : k + (i + 1) + 1 ∈ lineFeedEnds bs (k + 1) :=
          ih.mpr ⟨i, by simpa using hi, by omega⟩
        by_cases hb : b = 10
        · simp only [lineFeedEnds, hb, if_true, List.mem_cons]
          exact .inr hmem
        · simpa only [lineFeedEnds, hb, if_false] using hmem

theorem lt_of_mem_lineFeedEnds {bs : List UInt8} {k n : Nat} (h : n ∈ lineFeedEnds bs k) :
    k < n := by
  obtain ⟨i, -, rfl⟩ := mem_lineFeedEnds.mp h
  omega

theorem lineFeedEnds_pairwise (bs : List UInt8) (k : Nat) :
    (lineFeedEnds bs k).Pairwise (· < ·) := by
  induction bs generalizing k with
  | nil => exact List.Pairwise.nil
  | cons b bs ih =>
    by_cases hb : b = 10
    · simp only [lineFeedEnds, hb, if_true]
      exact List.Pairwise.cons (fun n hn => lt_of_mem_lineFeedEnds hn) (ih (k + 1))
    · simpa only [lineFeedEnds, hb, if_false] using ih (k + 1)

/-- The line ends at most `o` are those of the line feeds before byte `o`. -/
theorem countP_lineFeedEnds (bs : List UInt8) (k o : Nat) :
    (lineFeedEnds bs k).countP (· ≤ o) = (bs.take (o - k)).count 10 := by
  induction bs generalizing k with
  | nil => simp [lineFeedEnds]
  | cons b bs ih =>
    have hsub : o - (k + 1) = o - k - 1 := by omega
    rcases Nat.eq_zero_or_pos (o - k) with hz | hpos
    · -- no byte lies before `o`, and every end exceeds `o`
      rw [hz, List.take_zero, List.count_nil, List.countP_eq_zero]
      intro n hn
      have hlt : k < n := by
        by_cases hb : b = 10
        · simp only [lineFeedEnds, hb, if_true, List.mem_cons] at hn
          rcases hn with rfl | hn
          · omega
          · exact Nat.lt_trans (Nat.lt_succ_self k) (lt_of_mem_lineFeedEnds hn)
        · simp only [lineFeedEnds, hb, if_false] at hn
          exact Nat.lt_trans (Nat.lt_succ_self k) (lt_of_mem_lineFeedEnds hn)
      simp only [decide_eq_true_eq]
      omega
    · have htake : (b :: bs).take (o - k) = b :: bs.take (o - k - 1) := by
        rw [show o - k = (o - k - 1) + 1 by omega, List.take_succ_cons, Nat.add_sub_cancel]
      rw [htake, List.count_cons]
      by_cases hb : b = 10
      · simp only [lineFeedEnds, hb, if_true, List.countP_cons, ih, hsub, beq_self_eq_true,
          if_true, decide_eq_true_eq]
        rw [if_pos (by omega)]
      · simp only [lineFeedEnds, hb, if_false, ih, hsub, beq_iff_eq, Nat.add_zero]

/-- The table holds 0, then one past each line feed of the text's bytes. -/
theorem ofString_starts (src : String) :
    (ofString src).starts.toList = 0 :: lineFeedEnds src.toUTF8.data.toList 0 := by
  -- the fold appends the end of each line feed it reads, counting the bytes as it goes
  have key : ∀ (bs : List UInt8) (acc : Array Nat) (k : Nat),
      bs.foldl (fun (acc : Array Nat × Nat) (b : UInt8) =>
        (if b == 10 then acc.1.push (acc.2 + 1) else acc.1, acc.2 + 1)) (acc, k) =
        (acc ++ (lineFeedEnds bs k).toArray, k + bs.length) := by
    intro bs
    induction bs with
    | nil => intro acc k; simp [lineFeedEnds]
    | cons b bs ih =>
      intro acc k
      by_cases hb : b = 10
      · simp only [List.foldl_cons, hb, beq_self_eq_true, if_true, ih, lineFeedEnds]
        simp [Nat.add_assoc, Nat.add_comm 1]
      · have hb' : (b == 10) = false := by simpa using hb
        simp only [List.foldl_cons, hb', Bool.false_eq_true, if_false, ih, lineFeedEnds, hb]
        simp [Nat.add_assoc, Nat.add_comm 1]
  simp only [ofString, ← Array.foldl_toList, key]
  simp

theorem starts_pairwise (src : String) : (ofString src).starts.toList.Pairwise (· < ·) := by
  rw [ofString_starts]
  exact List.Pairwise.cons (fun n hn => lt_of_mem_lineFeedEnds hn) (lineFeedEnds_pairwise _ _)

theorem starts_head (src : String) : (ofString src).starts[0]? = some 0 := by
  rw [← Array.getElem?_toList, ofString_starts]
  rfl

/-- `l` is the line of offset `o` in the table `t`: the starts before index `l` are at
most `o`, the others exceed it, and there is at least one of the first kind. -/
structure LineOf (t : LineIndex) (o l : Nat) : Prop where
  pos : 1 ≤ l
  le_size : l ≤ t.starts.size
  low : ∀ j < l, t.starts.getD j 0 ≤ o
  high : ∀ j, l ≤ j → j < t.starts.size → o < t.starts.getD j 0

/-- On a table that starts at 0 and strictly ascends, the search gives the line of the
offset; in particular it is never 0. -/
theorem line_lineOf {t : LineIndex} (hs : t.starts.toList.Pairwise (· < ·))
    (h0 : t.starts[0]? = some 0) (o : Nat) : LineOf t o (t.line o) := by
  have ha := Ascending.of_pairwise hs
  obtain ⟨hsize, -⟩ := Array.getElem?_eq_some_iff.mp h0
  have hzero : t.starts.getD 0 0 = 0 := by simp [Array.getD_eq_getD_getElem?, h0]
  unfold line
  split
  · -- the offset is a line start: its line is the one that starts there
    next i hi =>
    obtain ⟨hlt, heq⟩ := binarySearch_ok ha hi
    refine ⟨by omega, hlt, fun j hj => heq ▸ ha j i (by omega) hlt, fun j hj hja => ?_⟩
    exact heq ▸ getD_lt_getD_of_pairwise hs (by omega) hja
  · -- the offset lies past the start before the place the search found
    next i hi =>
    obtain ⟨hle, hbelow, habove⟩ := binarySearch_error ha hi
    have hpos : 1 ≤ i := Nat.pos_of_ne_zero fun hi0 => by
      have := habove 0 (by omega) hsize
      omega
    exact ⟨hpos, hle, fun j hj => Nat.le_of_lt (hbelow j hj), habove⟩

/-- The bytes of a text at the indices below `o`. -/
def bytesBelow (src : String) (o : Nat) : List UInt8 := src.toUTF8.data.toList.take o

section LineOf

variable {src : String} {o l : Nat}

/-- The start of the line is read from the table. -/
theorem LineOf.start_getElem? (h : LineOf (ofString src) o l) :
    (ofString src).starts[l - 1]? = some ((ofString src).starts.getD (l - 1) 0) := by
  have hl : l - 1 < (ofString src).starts.size := by have := h.pos; have := h.le_size; omega
  simp [Array.getD_eq_getD_getElem?, Array.getElem?_eq_getElem hl]

/-- The start of the line is 0, or one past a line feed. -/
theorem LineOf.start_mem (h : LineOf (ofString src) o l) :
    (ofString src).starts.getD (l - 1) 0 ∈ 0 :: lineFeedEnds src.toUTF8.data.toList 0 := by
  rw [← ofString_starts]
  apply List.mem_of_getElem?
  rw [Array.getElem?_toList]
  exact h.start_getElem?

/-- A line other than the first starts just after a line feed below the offset. -/
theorem LineOf.start_after_feed (h : LineOf (ofString src) o l) :
    (ofString src).starts.getD (l - 1) 0 = 0 ∨
      (bytesBelow src o)[(ofString src).starts.getD (l - 1) 0 - 1]? = some 10 := by
  have hSo := h.low (l - 1) (by have := h.pos; omega)
  rcases List.mem_cons.mp h.start_mem with h0 | hend
  · exact .inl h0
  · obtain ⟨i, hi, hS⟩ := mem_lineFeedEnds.mp hend
    right
    rw [hS, show 0 + i + 1 - 1 = i by omega, bytesBelow, List.getElem?_take_of_lt (by omega)]
    exact hi

/-- No line feed lies between the start of the line and the offset: it would start a
later line that begins at or before the offset. -/
theorem LineOf.no_feed_after_start (h : LineOf (ofString src) o l) (i : Nat)
    (hi : (ofString src).starts.getD (l - 1) 0 ≤ i) :
    (bytesBelow src o)[i]? ≠ some 10 := by
  intro hlf
  unfold bytesBelow at hlf
  have hio : i < o := Nat.lt_of_not_le fun hge => by
    rw [List.getElem?_take, if_neg (by omega)] at hlf
    cases hlf
  rw [List.getElem?_take_of_lt hio] at hlf
  have hend : i + 1 ∈ (ofString src).starts.toList := by
    rw [ofString_starts]
    exact List.mem_cons_of_mem _ (mem_lineFeedEnds.mpr ⟨i, hlf, by omega⟩)
  obtain ⟨j, hj, hji⟩ := List.getElem_of_mem hend
  simp only [Array.length_toList] at hj
  have hjv : (ofString src).starts.getD j 0 = i + 1 := by
    simp [Array.getD_eq_getD_getElem?, Array.getElem?_eq_getElem hj, ← hji]
  rcases Nat.lt_or_ge j l with hjl | hjl
  · -- an earlier start is at most the line's own start
    have := Ascending.of_pairwise (starts_pairwise src) j (l - 1) (by omega)
      (by have := h.le_size; omega)
    omega
  · -- a later start exceeds the offset
    have := h.high j hjl hj
    omega

/-- The line counts the starts at most the offset: 0, and the ends of the line feeds below
it. -/
theorem LineOf.eq_count (h : LineOf (ofString src) o l) :
    l = 1 + (bytesBelow src o).count 10 := by
  have hcount : (ofString src).starts.toList.countP (· ≤ o) = l :=
    countP_le_of_split (by simpa using h.le_size) (fun j hj => by simpa using h.low j hj)
      (fun j hj hjs => by simpa using h.high j hj (by simpa using hjs))
  rw [ofString_starts, List.countP_cons, countP_lineFeedEnds, Nat.sub_zero] at hcount
  simp only [Nat.zero_le, decide_true, if_true] at hcount
  rw [← hcount, Nat.add_comm, bytesBelow]

end LineOf

example : (ofString "package a\n\nfunc f() {}\n").lineCol 16 = (3, 6) := by decide +kernel

end LineIndex

end GoTemplates.Source
