import GoTemplates.Template.Mapping
import Mathlib.Data.List.Infix
import Mathlib.Data.List.TakeWhile

/-! # Reading back a written concrete type

Writing a concrete type and reading the text again gives the same type, for every type
that reading returns (`render_reads_back`). The written form keeps the marks that
reading looks for: the pointer star, the last point before the type name, and the
quoted path of an aliased import, which ends at its last `")` because a package name
holds no quote. The types reading returns are described by `Readable`, without
reference to the reader.

A mapping written as comma separated `name=type` pairs, under distinct identifier
names and with types that reading returns, is read back entry for entry
(`TypeMapping.parse_joined`).
-/

namespace GoTemplates.Template

open GoTemplates.Text

/-! ## The last separator -/

section Split

variable {sep s : List Char}

/-- The offset of the last separator is found when nothing later starts one. -/
theorem lastIndexOf?_eq_some {i : Nat} (h : sep <+: s.drop i) (hi : i ≤ s.length)
    (hlast : ∀ j, i < j → j ≤ s.length → ¬ sep <+: s.drop j) : lastIndexOf? sep s = some i := by
  -- after the offsets below `n`, the scan holds `i` once it has passed it
  suffices hscan : ∀ n, i < n → n ≤ s.length + 1 →
      (List.range n).foldl (fun acc j => if sep.isPrefixOf (s.drop j) then some j else acc)
        none = some i from hscan _ (by omega) (Nat.le_refl _)
  intro n
  induction n with
  | zero => intro hin; omega
  | succ n ih =>
    intro hin hn
    rw [List.range_succ, List.foldl_append, List.foldl_cons, List.foldl_nil]
    by_cases hni : n = i
    · subst hni
      rw [if_pos (List.isPrefixOf_iff_prefix.mpr h)]
    · have hn' : sep.isPrefixOf (s.drop n) = false :=
        Bool.eq_false_iff.mpr fun hp =>
          hlast n (by omega) (by omega) (List.isPrefixOf_iff_prefix.mp hp)
      rw [hn', if_neg Bool.false_ne_true]
      exact ih (by omega) (by omega)

/-- No separator is found in a text where none starts. -/
theorem lastIndexOf?_eq_none (h : ∀ j ≤ s.length, ¬ sep <+: s.drop j) :
    lastIndexOf? sep s = none := by
  suffices hscan : ∀ n, n ≤ s.length + 1 →
      (List.range n).foldl (fun acc j => if sep.isPrefixOf (s.drop j) then some j else acc)
        none = none from hscan _ (Nat.le_refl _)
  intro n
  induction n with
  | zero => intro; rfl
  | succ n ih =>
    intro hn
    have hn' : sep.isPrefixOf (s.drop n) = false :=
      Bool.eq_false_iff.mpr fun hp => h n (by omega) (List.isPrefixOf_iff_prefix.mp hp)
    rw [List.range_succ, List.foldl_append, List.foldl_cons, List.foldl_nil, hn',
      if_neg Bool.false_ne_true]
    exact ih (by omega)

/-- A separator starts at the offset found. -/
theorem lastIndexOf?_sound {i : Nat} (h : lastIndexOf? sep s = some i) : sep <+: s.drop i := by
  suffices hscan : ∀ n, (List.range n).foldl
      (fun acc j => if sep.isPrefixOf (s.drop j) then some j else acc) none = some i →
        sep <+: s.drop i from hscan _ h
  intro n
  induction n with
  | zero => intro h0; cases h0
  | succ n ih =>
    rw [List.range_succ, List.foldl_append, List.foldl_cons, List.foldl_nil]
    split
    · rename_i hp
      intro hn
      cases hn
      exact List.isPrefixOf_iff_prefix.mp hp
    · exact ih

/-- The parts around the last separator make up the text. -/
theorem splitLast?_sound {a b : List Char} (h : splitLast? sep s = some (a, b)) :
    s = a ++ sep ++ b := by
  unfold splitLast? at h
  cases hi : lastIndexOf? sep s with
  | none => simp [hi] at h
  | some i =>
    simp only [hi, Option.map_some, Option.some.injEq, Prod.mk.injEq] at h
    obtain ⟨rfl, rfl⟩ := h
    have hsep := List.prefix_iff_eq_append.mp (lastIndexOf?_sound hi)
    rw [List.drop_drop] at hsep
    calc s = s.take i ++ s.drop i := (List.take_append_drop i s).symm
      _ = s.take i ++ sep ++ s.drop (i + sep.length) := by
        rw [List.append_assoc, hsep]

/-- A separator whose first character does not occur after it is the last one. -/
theorem splitLast?_append {c : Char} {cs a b : List Char} (hc : c ∉ cs ++ b) :
    splitLast? (c :: cs) (a ++ c :: (cs ++ b)) = some (a, b) := by
  have hfound : lastIndexOf? (c :: cs) (a ++ c :: (cs ++ b)) = some a.length := by
    refine lastIndexOf?_eq_some ?_ (by simp) fun j hj _ hp => hc ?_
    · simp [List.drop_left']
    · -- a separator starting after `c` would bring `c` along
      have hmem : c ∈ (a ++ c :: (cs ++ b)).drop j := hp.subset List.mem_cons_self
      rw [List.drop_append, List.drop_eq_nil_of_le (by omega), List.nil_append,
        show j - a.length = (j - a.length - 1) + 1 by omega, List.drop_succ_cons] at hmem
      exact List.mem_of_mem_drop hmem
  unfold splitLast?
  rw [hfound]
  simp [List.take_left', List.drop_left']

/-- A text that lacks the separator's first character has no separator. -/
theorem splitLast?_eq_none {c : Char} {cs : List Char} (hc : c ∉ s) :
    splitLast? (c :: cs) s = none := by
  unfold splitLast?
  rw [lastIndexOf?_eq_none fun j _ hp => hc (List.mem_of_mem_drop (hp.subset List.mem_cons_self))]
  rfl

/-- The opening of the aliased form is taken off. -/
theorem dropPrefix?_aliased (r : List Char) : dropPrefix? ['(', '"'] ('(' :: '"' :: r) = some r := by
  simp [dropPrefix?]

theorem dropPrefix?_eq_none_iff {p : List Char} : dropPrefix? p s = none ↔ ¬ p <+: s := by
  unfold dropPrefix?
  split
  · rename_i hp
    simp [List.isPrefixOf_iff_prefix.mp hp]
  · rename_i hp
    simpa [List.isPrefixOf_iff_prefix] using hp

end Split

/-! ## Identifiers -/

section Identifier

theorem identifierFault_scan_eq_none {off : Nat} {l : List Char} :
    identifierFault.scan off l = none ↔ ∀ d ∈ l, isXidContinue d = true := by
  induction l generalizing off with
  | nil => simp [identifierFault.scan]
  | cons d l ih =>
    unfold identifierFault.scan
    split
    · rename_i hd
      simp [ih, hd]
    · rename_i hd
      simp [hd]

/-- An identifier is a start character or underscore, then continue characters. -/
theorem identifierFault_eq_none {s : String} (h : identifierFault s = none) :
    ∃ c cs, s.toList = c :: cs ∧ (c = '_' ∨ isXidStart c = true) ∧
      ∀ d ∈ cs, isXidContinue d = true := by
  unfold identifierFault at h
  split at h
  · cases h
  · rename_i c cs hs
    split at h
    · rename_i hstart
      refine ⟨c, cs, hs, ?_, identifierFault_scan_eq_none.mp h⟩
      simpa using hstart
    · cases h

/-- A character in neither identifier class, and not an underscore, is in no identifier. -/
theorem not_mem_of_identifierFault {s : String} {x : Char} (h : identifierFault s = none)
    (hx : x ≠ '_') (hs : isXidStart x = false) (hc : isXidContinue x = false) :
    x ∉ s.toList := by
  obtain ⟨c, cs, hl, hstart, hcont⟩ := identifierFault_eq_none h
  rw [hl]
  rintro (_ | ⟨_, hmem⟩)
  · rcases hstart with rfl | hst
    · exact hx rfl
    · rw [hs] at hst
      cases hst
  · rw [hcont x hmem] at hc
    cases hc

/-- The marks of the mapping grammar occur in no identifier. -/
theorem marks_not_mem_identifier {s : String} (h : identifierFault s = none) :
    '.' ∉ s.toList ∧ '"' ∉ s.toList ∧ '/' ∉ s.toList ∧ '=' ∉ s.toList ∧ ',' ∉ s.toList ∧
      '*' ∉ s.toList :=
  ⟨not_mem_of_identifierFault h (by decide) (by decide) (by decide),
   not_mem_of_identifierFault h (by decide) (by decide) (by decide),
   not_mem_of_identifierFault h (by decide) (by decide) (by decide),
   not_mem_of_identifierFault h (by decide) (by decide) (by decide),
   not_mem_of_identifierFault h (by decide) (by decide) (by decide),
   not_mem_of_identifierFault h (by decide) (by decide) (by decide)⟩

theorem CharTable.contains_eq_any (t : CharTable) (c : Char) :
    t.contains c = t.ranges.toList.any fun r => r.1 ≤ c.toNat && c.toNat ≤ r.2 := by
  rw [Array.any_toList]
  rfl

/-- White space belongs to neither identifier class. -/
theorem blank_not_identifier_char {c : Char} (h : isBlank c = true) :
    c ≠ '_' ∧ isXidStart c = false ∧ isXidContinue c = false := by
  simp only [isBlank, Bool.or_eq_true, Bool.and_eq_true, decide_eq_true_eq, beq_iff_eq] at h
  rw [← Char.ofNat_toNat c]
  by_cases hascii : c.toNat < 0x80
  · -- tab, the line controls and space
    have hcodes : c.toNat ∈ [9, 10, 11, 12, 13, 32] := by simp; omega
    have hascii_all : ∀ n ∈ [9, 10, 11, 12, 13, 32],
        Char.ofNat n ≠ '_' ∧ isXidStart (Char.ofNat n) = false ∧
          isXidContinue (Char.ofNat n) = false := by decide
    exact hascii_all _ hcodes
  · -- the other spaces are looked up in the tables
    have hcodes : c.toNat ∈ [0x85, 0xA0, 0x1680, 0x2000, 0x2001, 0x2002, 0x2003, 0x2004,
        0x2005, 0x2006, 0x2007, 0x2008, 0x2009, 0x200A, 0x2028, 0x2029, 0x202F, 0x205F,
        0x3000] := by simp; omega
    have htables : ∀ n ∈ [0x85, 0xA0, 0x1680, 0x2000, 0x2001, 0x2002, 0x2003, 0x2004,
        0x2005, 0x2006, 0x2007, 0x2008, 0x2009, 0x200A, 0x2028, 0x2029, 0x202F, 0x205F,
        0x3000], (xidStartTable.ranges.toList.any fun r => r.1 ≤ n && n ≤ r.2) = false ∧
          (xidContinueTable.ranges.toList.any fun r => r.1 ≤ n && n ≤ r.2) = false := by
      decide +kernel
    have hne : Char.ofNat c.toNat ≠ '_' := by
      intro heq
      rw [Char.ofNat_toNat] at heq
      subst heq
      exact hascii (by decide)
    have hnum : (Char.ofNat c.toNat).toNat = c.toNat := by rw [Char.ofNat_toNat]
    refine ⟨hne, ?_, ?_⟩
    · rw [isXidStart, if_neg (by omega), CharTable.contains_eq_any, hnum]
      exact (htables _ hcodes).1
    · rw [isXidContinue, if_neg (by omega), CharTable.contains_eq_any, hnum]
      exact (htables _ hcodes).2

/-- No character of an identifier is white space. -/
theorem not_blank_of_identifierFault {s : String} (h : identifierFault s = none) :
    ∀ c ∈ s.toList, isBlank c = false := by
  intro c hc
  by_contra hb
  obtain ⟨hu, hs, hcont⟩ := blank_not_identifier_char (Bool.not_eq_false _ ▸ hb)
  exact not_mem_of_identifierFault h hu hs hcont hc

end Identifier

/-! ## Validation -/

namespace ConcreteType

theorem validate_eq_ok {t t' : ConcreteType} (h : t.validate = .ok t') :
    t' = t ∧ identifierFault t.typeName = none ∧
      (t.packageAlias = "" ∨ identifierFault t.packageAlias = none) := by
  unfold validate at h
  split at h
  · cases h
  · rename_i hname
    split at h
    · rename_i hempty
      cases h
      exact ⟨rfl, hname, .inl (String.isEmpty_iff.mp hempty)⟩
    · split at h
      · cases h
      · rename_i halias
        cases h
        exact ⟨rfl, hname, .inr halias⟩

theorem validate_of {t : ConcreteType} (hname : identifierFault t.typeName = none)
    (halias : t.packageAlias = "" ∨ identifierFault t.packageAlias = none) :
    t.validate = .ok t := by
  unfold validate
  rw [hname]
  dsimp only
  rcases halias with he | ha
  · rw [he]
    rfl
  · split
    · rfl
    · rw [ha]

/-! ## What reading returns -/

/-- `pkg` is the package name an import path gives: what follows its last slash, or
the whole path when it has none (the name holds no slash). -/
def LastElement (path pkg : List Char) : Prop :=
  (∃ pre, path = pre ++ '/' :: pkg) ∨ pkg = path

/-- The concrete types that reading a specification returns: a type of the package
being generated; a type of an import path, named by the path's last element, whose
path neither starts like the aliased form nor, for a non-pointer, with a star; or a
type of an aliased import. Names are identifiers and a package name may be empty. -/
inductive Readable : ConcreteType → Prop
  | unqualified {name : String} {ptr : Bool} : identifierFault name = none →
      Readable { typeName := name, isPointer := ptr }
  | qualified {path pkg name : String} {ptr : Bool} : identifierFault name = none →
      (pkg = "" ∨ identifierFault pkg = none) → path.toList ≠ [] →
      ¬ ['(', '"'] <+: path.toList → (ptr = false → path.toList.head? ≠ some '*') →
      LastElement path.toList pkg.toList →
      Readable { pkgPath := path, packageAlias := pkg, typeName := name, isPointer := ptr }
  | aliased {path pkg name : String} {ptr : Bool} : identifierFault name = none →
      (pkg = "" ∨ identifierFault pkg = none) → path.toList ≠ [] →
      Readable { pkgPath := path, packageAlias := pkg, typeName := name, isPointer := ptr,
                 isAliasedImport := true }

theorem Readable.typeName {t : ConcreteType} (h : t.Readable) :
    identifierFault t.typeName = none := by
  cases h with
  | unqualified hn => exact hn
  | qualified hn => exact hn
  | aliased hn => exact hn

/-- A package name holds no quote. -/
theorem quote_not_mem_alias {pkg : String} (h : pkg = "" ∨ identifierFault pkg = none) :
    '"' ∉ pkg.toList := by
  rcases h with rfl | h
  · simp
  · exact (marks_not_mem_identifier h).2.1

/-- A package name holds no slash. -/
theorem slash_not_mem_alias {pkg : String} (h : pkg = "" ∨ identifierFault pkg = none) :
    '/' ∉ pkg.toList := by
  rcases h with rfl | h
  · simp
  · exact (marks_not_mem_identifier h).2.2.1

/-- Reading takes a leading star as the pointer mark and reads on after it. -/
theorem strip_star {l r : List Char} {p : Bool}
    (h : (match l with | '*' :: r => (true, r) | cs => (false, cs)) = (p, r)) :
    l = (if p then '*' :: r else r) ∧ (p = false → r.head? ≠ some '*') := by
  split at h
  · cases h
    simp
  · rename_i hcs
    cases h
    refine ⟨rfl, fun _ hh => ?_⟩
    obtain ⟨r', hr'⟩ : ∃ r', l = '*' :: r' := by
      cases l with
      | nil => cases hh
      | cons c r' =>
        simp only [List.head?_cons, Option.some.injEq] at hh
        exact ⟨r', by rw [hh]⟩
    exact hcs r' hr'

/-- A path that reading keeps does not start with a star unless the type is a pointer. -/
theorem head_of_path {ptr : Bool} {pkg name rest : List Char}
    (hhead : ptr = false → rest.head? ≠ some '*') (hrest : rest = pkg ++ ['.'] ++ name)
    (hpkg : pkg ≠ []) : ptr = false → pkg.head? ≠ some '*' := by
  intro hp
  obtain ⟨c, cs, rfl⟩ := List.exists_cons_of_ne_nil hpkg
  simpa [hrest] using hhead hp

/-- Every type that reading returns is readable. -/
theorem parse_readable {spec : String} {t : ConcreteType} (h : parse spec = .ok t) :
    t.Readable := by
  unfold parse at h
  split at h
  rename_i ptr rest hstar
  have hhead := (strip_star hstar).2
  split at h
  · -- no point: a type of the package being generated
    obtain ⟨rfl, hname, -⟩ := validate_eq_ok h
    exact .unqualified hname
  · rename_i pkg name hsplit
    have hrest := splitLast?_sound hsplit
    split at h
    · -- the aliased form `("path")pkg.Name`
      split at h
      · dsimp only at h
        split at h
        · cases h
        · rename_i hpath
          obtain ⟨rfl, hname, hpkg⟩ := validate_eq_ok h
          refine .aliased hname hpkg ?_
          simpa using hpath
      · cases h
    · -- a path whose last element names the package
      rename_i hplain
      split at h
      · rename_i pre pkgName hslash
        dsimp only at h
        split at h
        · cases h
        · rename_i hpath
          have hne : pkg ≠ [] := by simpa using hpath
          obtain ⟨rfl, hname, hpkg⟩ := validate_eq_ok h
          refine .qualified hname hpkg ?_ ?_ ?_ ?_
          · simpa using hpath
          · simpa using dropPrefix?_eq_none_iff.mp hplain
          · simpa using head_of_path hhead hrest hne
          · exact .inl ⟨pre, by simpa using splitLast?_sound hslash⟩
      · dsimp only at h
        split at h
        · cases h
        · rename_i hpath
          have hne : pkg ≠ [] := by simpa using hpath
          obtain ⟨rfl, hname, hpkg⟩ := validate_eq_ok h
          refine .qualified hname hpkg ?_ ?_ ?_ (.inr (by simp))
          · simpa using hpath
          · simpa using dropPrefix?_eq_none_iff.mp hplain
          · simpa using head_of_path hhead hrest hne

/-! ## Writing a type and reading it again -/

/-- A star is taken off the written text exactly when the type is a pointer. -/
theorem strip_star_of (body : List Char) (ptr : Bool) {l r : List Char} {p : Bool}
    (h : (match l with | '*' :: r => (true, r) | cs => (false, cs)) = (p, r))
    (hl : l = if ptr then '*' :: body else body) (hbody : ptr = false → body.head? ≠ some '*') :
    p = ptr ∧ r = body := by
  obtain ⟨hl', hr⟩ := strip_star h
  rw [hl] at hl'
  cases p with
  | false =>
    cases ptr with
    | false => exact ⟨rfl, by simpa using hl'.symm⟩
    | true =>
      -- a kept star would have been taken off
      simp only [if_true, Bool.false_eq_true, if_false] at hl'
      exact absurd (by rw [← hl']; rfl) (hr rfl)
  | true =>
    cases ptr with
    | false =>
      simp only [if_true, Bool.false_eq_true, if_false] at hl'
      exact absurd (by rw [hl']; rfl) (hbody rfl)
    | true => exact ⟨rfl, by simpa using hl'.symm⟩

/-- The written text: the star, then the package part, then the type name. -/
theorem render_toList (t : ConcreteType) :
    t.render.toList = (if t.isPointer then ['*'] else []) ++
      (if t.isAliasedImport then
        '(' :: '"' :: t.pkgPath.toList ++ '"' :: ')' :: t.packageAlias.toList ++ ['.']
      else if t.hasImport then t.pkgPath.toList ++ ['.'] else []) ++ t.typeName.toList := by
  unfold render
  split_ifs <;> simp

theorem splitLast?_single {c : Char} {a b : List Char} (hc : c ∉ b) :
    splitLast? [c] (a ++ c :: b) = some (a, b) :=
  @splitLast?_append c [] a b (by simpa using hc)

theorem splitLast?_quoted {a b : List Char} (hb : '"' ∉ b) :
    splitLast? ['"', ')'] (a ++ '"' :: ')' :: b) = some (a, b) :=
  @splitLast?_append '"' [')'] a b (by simpa using hb)

/-- Writing a readable type and reading the text gives the type back. -/
theorem parse_render {t : ConcreteType} (h : t.Readable) : parse t.render = .ok t := by
  cases h with
  | @unqualified name ptr hname =>
    have hmarks := marks_not_mem_identifier hname
    unfold parse
    split
    rename_i p r hstar
    obtain ⟨rfl, rfl⟩ := strip_star_of name.toList ptr hstar
      (by cases ptr <;> simp [render_toList, hasImport]) fun _ hh => hmarks.2.2.2.2.2
        (List.mem_of_mem_head? hh)
    rw [splitLast?_eq_none hmarks.1]
    dsimp only
    rw [String.ofList_toList]
    exact validate_of hname (.inl rfl)
  | @qualified path pkg name ptr hname hpkg hpath hnotq hstarp hlast =>
    have hmarks := marks_not_mem_identifier hname
    have hpath' : path ≠ "" := fun he => hpath (by simp [he])
    unfold parse
    split
    rename_i p r hstar
    obtain ⟨rfl, rfl⟩ := strip_star_of (path.toList ++ '.' :: name.toList) ptr hstar
      (by cases ptr <;> simp [render_toList, hasImport, hpath']) fun hp hh => hstarp hp
        (by obtain ⟨c, cs, hcs⟩ := List.exists_cons_of_ne_nil hpath; simpa [hcs] using hh)
    rw [splitLast?_single hmarks.1]
    dsimp only
    rw [(dropPrefix?_eq_none_iff).mpr hnotq]
    dsimp only
    -- the package name is read off the path's last element
    rcases hlast with ⟨pre, hpre⟩ | hsame
    · rw [hpre, splitLast?_single (slash_not_mem_alias hpkg)]
      dsimp only
      rw [if_neg (by simp), ← hpre, String.ofList_toList, String.ofList_toList,
        String.ofList_toList]
      exact validate_of hname hpkg
    · obtain rfl : pkg = path := String.toList_inj.mp hsame
      rw [splitLast?_eq_none (slash_not_mem_alias hpkg)]
      dsimp only
      rw [if_neg (by simpa using hpath), String.ofList_toList, String.ofList_toList]
      exact validate_of hname hpkg
  | @aliased path pkg name ptr hname hpkg hpath =>
    have hmarks := marks_not_mem_identifier hname
    unfold parse
    split
    rename_i p r hstar
    obtain ⟨rfl, rfl⟩ := strip_star_of
      (('(' :: '"' :: path.toList ++ '"' :: ')' :: pkg.toList) ++ '.' :: name.toList) ptr hstar
      (by cases ptr <;> simp [render_toList]) fun _ hh => by simp at hh
    rw [splitLast?_single hmarks.1]
    dsimp only
    simp only [List.cons_append]
    rw [dropPrefix?_aliased]
    dsimp only
    rw [splitLast?_quoted (quote_not_mem_alias hpkg)]
    dsimp only
    rw [if_neg (by simpa using hpath), String.ofList_toList, String.ofList_toList,
      String.ofList_toList]
    exact validate_of hname hpkg

end ConcreteType

/-! ## Reading a written mapping -/

section Text

/-- A text whose first and last characters are not white space is kept by trimming. -/
theorem trimBlank_eq_self {s : String} (hhead : ∀ c ∈ s.toList.head?, isBlank c = false)
    (hlast : ∀ c ∈ s.toList.getLast?, isBlank c = false) : trimBlank s = s := by
  unfold trimBlank
  have hfront : s.toList.dropWhile isBlank = s.toList :=
    List.dropWhile_eq_self_iff.mpr fun hl => by
      rw [hhead s.toList[0] (by simp [List.head?_eq_getElem?, hl])]
      exact Bool.false_ne_true
  have hback : s.toList.reverse.dropWhile isBlank = s.toList.reverse :=
    List.dropWhile_eq_self_iff.mpr fun hl => by
      have hmem : s.toList.reverse[0] ∈ s.toList.getLast? := by
        rw [← List.head?_reverse, List.head?_eq_getElem?, List.getElem?_eq_getElem hl]
        rfl
      rw [hlast _ hmem]
      exact Bool.false_ne_true
  rw [hfront, hback, List.reverse_reverse, String.ofList_toList]

/-- The first `c` of a text with none before it splits the text there. -/
theorem splitFirst?_append {c : Char} {a b : List Char} (hc : c ∉ a) :
    splitFirst? c (a ++ c :: b) = some (a, b) := by
  have hidx : (a ++ c :: b).idxOf? c = some a.length := by
    induction a with
    | nil => simp [List.idxOf?_cons]
    | cons x a ih =>
      have hx : (x == c) = false := by
        simpa using fun h : x = c => hc (by rw [h]; exact List.mem_cons_self)
      rw [List.cons_append, List.idxOf?_cons, hx, ih fun h => hc (List.mem_cons_of_mem _ h)]
      rfl
  simp [splitFirst?, hidx, List.take_left']

end Text

namespace TypeMapping

/-- A placeholder that no entry has is not found. -/
theorem find?_of_not_mem {entries : List (String × ConcreteType)} {n : String}
    (h : n ∉ entries.map Prod.fst) : (⟨entries⟩ : TypeMapping).find? n = none := by
  simp only [find?, Option.map_eq_none_iff, List.find?_eq_none, beq_iff_eq]
  intro p hp hpn
  exact h (List.mem_map.mpr ⟨p, hp, hpn⟩)

/-- A written pair `name=type` under a new identifier adds its entry. -/
theorem addPair_written {m : TypeMapping} {n : String} {t : ConcreteType}
    (hfresh : m.find? n = none) (hn : identifierFault n = none)
    (ht : ConcreteType.parse t.render = .ok t) :
    m.addPair (n ++ "=" ++ t.render) = .ok ⟨m.entries ++ [(n, t)]⟩ := by
  have htext : (n ++ "=" ++ t.render).toList = n.toList ++ '=' :: t.render.toList := by simp
  unfold addPair
  rw [htext, splitFirst?_append (marks_not_mem_identifier hn).2.2.2.1]
  dsimp only
  rw [String.ofList_toList, String.ofList_toList, ht]
  have hid : isIdentifier n = true := by simp [isIdentifier, hn]
  simp [hid, insert, hfresh]

/-- Reading written pairs one by one appends their entries. -/
theorem foldlM_addPair_written (pairs acc : List (String × ConcreteType))
    (hnames : (acc.map Prod.fst ++ pairs.map Prod.fst).Nodup)
    (hid : ∀ p ∈ pairs, identifierFault p.1 = none)
    (ht : ∀ p ∈ pairs, ConcreteType.parse p.2.render = .ok p.2) :
    (pairs.map fun p => p.1 ++ "=" ++ p.2.render).foldlM addPair ⟨acc⟩ = .ok ⟨acc ++ pairs⟩ := by
  induction pairs generalizing acc with
  | nil => simp only [List.map_nil, List.foldlM_nil, List.append_nil]; rfl
  | cons p pairs ih =>
    -- the first name is new to the entries read so far
    have hfresh : p.1 ∉ acc.map Prod.fst := by
      intro hmem
      exact (List.nodup_append.mp hnames).2.2 _ hmem _ List.mem_cons_self rfl
    rw [List.map_cons, List.foldlM_cons,
      addPair_written (find?_of_not_mem hfresh) (hid p List.mem_cons_self)
        (ht p List.mem_cons_self)]
    have hrest := ih (acc ++ [p]) (by simpa using hnames)
      (fun q hq => hid q (List.mem_cons_of_mem _ hq)) (fun q hq => ht q (List.mem_cons_of_mem _ hq))
    rw [List.append_assoc, List.singleton_append] at hrest
    exact hrest

/-- Mapping texts written as comma separated `name=type` pairs, with distinct identifier
names and types that reading returns and whose written forms hold no comma, are read back
entry for entry, in order. -/
theorem parse_joined (pairs : List (String × ConcreteType)) (hne : pairs ≠ [])
    (hnames : (pairs.map Prod.fst).Nodup) (hid : ∀ p ∈ pairs, isIdentifier p.1 = true)
    (himg : ∀ p ∈ pairs, ∃ spec, ConcreteType.parse spec = .ok p.2)
    (hcomma : ∀ p ∈ pairs, ',' ∉ p.2.render.toList) :
    parse (",".intercalate (pairs.map fun p => p.1 ++ "=" ++ p.2.render)) = .ok ⟨pairs⟩ := by
  have hid' : ∀ p ∈ pairs, identifierFault p.1 = none := fun p hp => by
    simpa [isIdentifier] using hid p hp
  have hread : ∀ p ∈ pairs, p.2.Readable := fun p hp => by
    obtain ⟨spec, hspec⟩ := himg p hp
    exact ConcreteType.parse_readable hspec
  -- the commas cut the text back into the written pairs
  have hsplit : (",".intercalate (pairs.map fun p => p.1 ++ "=" ++ p.2.render)).toList.splitOn ','
      = pairs.map fun p => (p.1 ++ "=" ++ p.2.render).toList := by
    rw [String.toList_intercalate, List.map_map]
    refine List.splitOn_intercalate ',' ?_ (by simpa using hne)
    intro l hl
    obtain ⟨p, hp, rfl⟩ := List.mem_map.mp hl
    simp [(marks_not_mem_identifier (hid' p hp)).2.2.2.2.1, hcomma p hp]
  -- and trimming keeps each pair, which starts and ends with an identifier character
  have htrim : ∀ p ∈ pairs,
      trimBlank (String.ofList (p.1 ++ "=" ++ p.2.render).toList) = p.1 ++ "=" ++ p.2.render := by
    intro p hp
    rw [String.ofList_toList]
    obtain ⟨c, cs, hcs, -⟩ := identifierFault_eq_none (hid' p hp)
    obtain ⟨d, ds, hds, -⟩ := identifierFault_eq_none (hread p hp).typeName
    refine trimBlank_eq_self ?_ ?_
    · intro x hx
      simp only [String.toList_append, hcs, List.cons_append, List.head?_cons,
        Option.mem_def, Option.some.injEq] at hx
      subst hx
      exact not_blank_of_identifierFault (hid' p hp) _ (by simp [hcs])
    · -- the written pair ends with the type name
      intro x hx
      obtain ⟨front, hfront⟩ : ∃ front, p.2.render = front ++ p.2.typeName := ⟨_, rfl⟩
      have hlast : x ∈ p.2.typeName.toList.getLast? := by
        rw [hfront, ← String.append_assoc, String.toList_append, List.getLast?_append, hds] at hx
        rw [hds]
        simpa using hx
      exact not_blank_of_identifierFault (hread p hp).typeName _ (List.mem_of_getLast? hlast)
  have hmap : pairs.map ((fun p => trimBlank (String.ofList p)) ∘
      fun p => (p.1 ++ "=" ++ p.2.render).toList) = pairs.map fun p => p.1 ++ "=" ++ p.2.render :=
    List.map_congr_left fun p hp => htrim p hp
  unfold parse
  rw [hsplit, List.map_map, hmap]
  exact foldlM_addPair_written pairs [] (by simpa using hnames) hid'
    fun p hp => ConcreteType.parse_render (hread p hp)

end TypeMapping

/-- Writing inverts reading on the types that reading returns. A mapping written as comma
separated pairs, under distinct identifier names and with such types whose written forms
hold no comma, is read back as exactly those entries in that order. -/
theorem render_reads_back :
    (∀ (spec : String) (t : ConcreteType), ConcreteType.parse spec = .ok t →
      ConcreteType.parse t.render = .ok t) ∧
    (∀ pairs : List (String × ConcreteType), pairs ≠ [] → (pairs.map Prod.fst).Nodup →
      (∀ p ∈ pairs, isIdentifier p.1 = true) →
      (∀ p ∈ pairs, ∃ spec, ConcreteType.parse spec = .ok p.2) →
      (∀ p ∈ pairs, ',' ∉ p.2.render.toList) →
      TypeMapping.parse (",".intercalate (pairs.map fun p => p.1 ++ "=" ++ p.2.render)) =
        .ok ⟨pairs⟩) :=
  ⟨fun _ _ h => ConcreteType.parse_render (ConcreteType.parse_readable h),
    TypeMapping.parse_joined⟩

/-- The pointer type `*os.File` is written back as it was read, and the mapping
`Reader=*os.File` is read back as its one entry. -/
theorem render_reads_back_os_file :
    let t : ConcreteType :=
      { pkgPath := "os", packageAlias := "os", typeName := "File", isPointer := true }
    ConcreteType.parse "*os.File" = .ok t ∧ ConcreteType.parse t.render = .ok t ∧
      TypeMapping.parse (",".intercalate ([("Reader", t)].map fun p => p.1 ++ "=" ++ p.2.render)) =
        .ok ⟨[("Reader", t)]⟩ := by
  intro t
  have hparse : ConcreteType.parse "*os.File" = .ok t := rfl
  exact ⟨hparse, render_reads_back.1 _ _ hparse, render_reads_back.2 _ (by simp) (by simp)
    (by decide) (by simpa using ⟨_, hparse⟩) (by decide)⟩

end GoTemplates.Template
