import GoTemplates.Proofs.Syntax.Productions
import GoTemplates.Proofs.Syntax.LexemeOrder

/-! # Declared names stand at distinct offsets

Every name a file declares at the top level is an identifier token the parser
passed over, in the order of the text, and the lexer puts identifiers at
strictly increasing offsets. So the names a parsed file declares come in
increasing order of their offsets, and no two share one.
-/

namespace GoTemplates.Syntax

open ParseM GoTemplates.Syntax.Parser

/-- The offsets of the names a top level declaration declares. -/
def TopDecl.nameStarts : TopDecl → List Nat
  | .gen g => g.nameStarts
  | .func f => [f.name.pos.start]

/-- The import declarations return the names they read after those collected before. -/
theorem importDecls_yields : ∀ (n : Nat) (acc : Array TopDecl),
    Yields (importDecls n acc) (acc.toList.flatMap TopDecl.nameStarts)
      fun ds => ds.toList.flatMap TopDecl.nameStarts
  | 0, acc => by
    rw [importDecls.eq_1]
    exact outOfSteps_reads
  | n + 1, acc => by
    rw [importDecls.eq_2]
    refine .seq (atKw_advances _) fun _ => ?_
    split
    · exact .pure (.refl _)
    · exact .bind (grammarAdvances n).genDecl fun _ => .seq expectSemi_advances fun _ =>
        (importDecls_yields n _).of_eq (by simp [TopDecl.nameStarts]) fun _ => rfl

/-- The declarations after the imports return the names they read after those collected
before. -/
theorem topDecls_yields : ∀ (n : Nat) (acc : Array TopDecl),
    Yields (topDecls n acc) (acc.toList.flatMap TopDecl.nameStarts)
      fun ds => ds.toList.flatMap TopDecl.nameStarts
  | 0, acc => by
    rw [topDecls.eq_1]
    exact outOfSteps_reads
  | n + 1, acc => by
    have g := grammarAdvances n
    -- after a declaration `d`, the rest collects onto the names of `d`
    have rest : ∀ d : TopDecl, Yields (do
        let atEnd ← atTok .eof
        if (!atEnd) = true then do expectSemi; topDecls n (acc.push d)
        else topDecls n (acc.push d))
        (acc.toList.flatMap TopDecl.nameStarts ++ d.nameStarts)
        fun ds => ds.toList.flatMap TopDecl.nameStarts := fun d => by
      have hrec : Yields (topDecls n (acc.push d))
          (acc.toList.flatMap TopDecl.nameStarts ++ d.nameStarts)
          fun ds => ds.toList.flatMap TopDecl.nameStarts :=
        (topDecls_yields n _).of_eq (by simp) fun _ => rfl
      refine .seq (atTok_advances _) fun _ => ?_
      split
      · exact .seq expectSemi_advances fun _ => hrec
      · exact hrec
    simp only [topDecls.eq_2]
    refine .seq (atTok_advances _) fun _ => ?_
    split
    · exact .pure (.refl _)
    refine .seq tok_advances fun _ => ?_
    split
    -- `const`, `type` and `var` declarations
    case' h_1 | h_2 | h_3 => exact .bind (.map _ g.genDecl fun _ => .refl _) rest
    case h_4 => exact .bind (.map _ g.funcDecl fun _ => .refl _) rest
    -- a late import, and anything else, fails
    case h_5 => exact .seq span_advances fun _ => Reads.bind_of_fails (failAt_reads _ _)
    case h_6 => exact Reads.bind_of_fails (failExpected_reads _)

/-- A file returns the names its declarations read. -/
theorem sourceFile_yields (fuel : Nat) :
    Yields (sourceFile fuel) [] fun file => file.decls.flatMap TopDecl.nameStarts := by
  unfold sourceFile
  refine .seq start_advances fun _ => .seq (takeDoc_advances _) fun _ =>
    .seq (expect_advances _) fun _ => .seq ident_advances fun _ =>
    .seq expectSemi_advances fun _ => ?_
  exact .bind_acc (importDecls_yields fuel #[]) fun _ =>
    .bind_acc (topDecls_yields fuel _) fun _ => .seq Advances.get fun _ => .pure (by simp)

/-- The names a parsed file declares stand at strictly increasing offsets. -/
theorem parseFile_nameStarts_pairwise {src filename : String} {pf : ParsedFile}
    (h : parseFile src filename = .ok pf) :
    (pf.file.decls.flatMap TopDecl.nameStarts).Pairwise (· < ·) := by
  unfold parseFile at h
  extract_lets lines lexed stop toks st0 st at h
  split at h
  · cases h
  split at h
  case h_2 => cases h
  rename_i file st' hrun
  cases h
  -- the names are among the identifiers the parse passed, hence among the lexer's
  have hread := (sourceFile_yields _ hrun).2.2
  have hlexed : (toks.toList.filterMap Lexeme.identStart?) =
      lexed.tokens.toList.filterMap Lexeme.identStart? := by
    simp [toks, Lexeme.identStart?]
  have hsub := hread.trans (identStarts_sublist_filterMap _ _ _)
  rw [hlexed] at hsub
  exact (lex_ordered src).identStarts_pairwise.sublist hsub

end GoTemplates.Syntax
