import GoTemplates.Syntax.Walk

/-! # Children of a node, and putting a node in a child's place

Any node of a file's tree, the places its direct children hang in (the places
the walk reports), and the operation that puts another node in one of those
places. Two tables describe a node's shape: the child table reads a node's
fields in source order, and the slot table opens one place of a node for
writing. They are written separately, one entry per kind of node and place.

A place is a slot, with `-1` for a single child and the position for a list
element. Positions of type switch cases count `nil` entries, which have no
node. A nested composite literal contributes its elements directly, under the
key or value place of the element that holds it. A union term is listed by its
type, and writing there replaces the type and keeps the `~`.

A place stores one kind of value, with two exceptions: a file's declaration
place takes a general or a function declaration, and an operand or callee
place an expression or a type. Putting a node of another kind there fails.
-/

namespace GoTemplates.Syntax

/-- A node of a file's tree, by kind. -/
inductive Node where
  | file (f : SourceFile)
  | genDecl (d : GenDecl)
  | spec (s : Spec)
  | funcDecl (f : FuncDecl)
  | signature (s : Signature)
  | field (f : Field)
  | typeParams (t : TypeParams)
  | typeParamDecl (t : TypeParamDecl)
  | stmt (s : Stmt)
  | simpleStmt (s : SimpleStmt)
  | switchClause (c : SwitchClause)
  | commClause (c : CommClause)
  | expr (e : Expr)
  | keyedElement (e : KeyedElement)
  | type (t : TypeExpr)
  | interfaceElem (e : InterfaceElem)
  | commentGroup (g : CommentGroup)
  | comment (c : Comment)
  | ident (id : Ident)

/-- The kind of a node. -/
def Node.kind : Node → NodeKind
  | .file _ => .file | .genDecl _ => .genDecl | .spec _ => .spec | .funcDecl _ => .funcDecl
  | .signature _ => .signature | .field _ => .field | .typeParams _ => .typeParams
  | .typeParamDecl _ => .typeParamDecl | .stmt _ => .stmt | .simpleStmt _ => .simpleStmt
  | .switchClause _ => .switchClause | .commClause _ => .commClause | .expr _ => .expr
  | .keyedElement _ => .keyedElement | .type _ => .type | .interfaceElem _ => .interfaceElem
  | .commentGroup _ => .commentGroup | .comment _ => .comment | .ident _ => .ident

/-- A top-level declaration as a node. -/
def TopDecl.node : TopDecl → Node
  | .gen d => .genDecl d
  | .func f => .funcDecl f

/-- An operand or callee as a node. -/
def Term.node : Term → Node
  | .expr e => .expr e
  | .type t => .type t

/-! ## The child table -/

namespace Children

/-- A single child. -/
def one (s : Slot) (c : Node) : List (Place × Node) := [(.one s, c)]

/-- An optional child. -/
def opt {α : Type} (s : Slot) (f : α → Node) : Option α → List (Place × Node)
  | none => []
  | some x => [(.one s, f x)]

/-- The elements of a list, each at its position. -/
def many {α : Type} (s : Slot) (f : α → Node) (xs : List α) : List (Place × Node) :=
  xs.mapIdx fun i x => (.nth s i, f x)

/-- The types of type switch cases from position `i`; `nil` has no node but takes its
position. -/
def typeCases : Nat → List TypeCase → List (Place × Node)
  | _, [] => []
  | i, .type t :: cs => (.nth .list i, .type t) :: typeCases (i + 1) cs
  | i, .nil _ :: cs => typeCases (i + 1) cs

/-- A key or value: an expression, or the elements of a nested literal. -/
def element (s : Slot) : Element → List (Place × Node)
  | .expr e => one s (.expr e)
  | .literal ⟨_, els, _⟩ => many s .keyedElement els

/-- The left side of a range clause or receive. -/
def rangeLhs : Option RangeLhs → List (Place × Node)
  | some (.define names _) => many .names .ident names
  | some (.assign exprs _) => many .lhs .expr exprs
  | none => []

end Children

open Children

/-- The children of an expression. -/
def Expr.children : Expr → List (Place × Node)
  | .ident .. | .basicLit .. => []
  | .funcLit _ _ sig ⟨_, stmts, _⟩ => one .type (.signature sig) ++ many .body .stmt stmts
  | .compositeLit _ t ⟨_, els, _⟩ => one .type (.type t) ++ many .elts .keyedElement els
  | .index _ x _ args _ => one .x (.expr x) ++ many .index Term.node args
  | .paren _ _ x _ => one .x (.expr x)
  | .selector _ x _ sel => one .x (.expr x) ++ one .sel (.ident sel)
  | .slice _ x _ lo hi mx _ =>
    one .x (.expr x) ++ opt .low .expr lo ++ opt .high .expr hi ++ opt .max .expr mx
  | .typeAssert _ x _ _ t _ => one .x (.expr x) ++ opt .type .type t
  | .call _ callee _ args _ _ => one .fun_ callee.node ++ many .args Term.node args
  | .unary _ _ _ x => one .x (.expr x)
  | .binary _ x _ _ y => one .x (.expr x) ++ one .y (.expr y)

/-- The children of a type. -/
def TypeExpr.children : TypeExpr → List (Place × Node)
  | .named _ pkg name _ args _ =>
    opt .pkg .ident pkg ++ one .name (.ident name) ++ many .args .type args
  | .pointer _ _ e | .slice _ _ _ e | .chan _ _ _ _ e => one .elt (.type e)
  | .array _ _ (.expr len) _ e => one .len (.expr len) ++ one .elt (.type e)
  | .array _ _ (.ellipsis _) _ e => one .elt (.type e)
  | .map _ _ _ k _ v => one .key (.type k) ++ one .value (.type v)
  | .struct _ _ ⟨_, fields, _⟩ => many .fields .field fields
  | .interface _ _ _ elems _ => many .methods .interfaceElem elems
  | .func _ _ sig => one .type (.signature sig)
  | .paren _ _ t _ => one .x (.type t)
  | .union _ terms => many .terms (fun u => .type u.type) terms

/-- The children of a statement. -/
def Stmt.children : Stmt → List (Place × Node)
  | .empty _ => []
  | .simple _ s => one .stmt (.simpleStmt s)
  | .decl _ d => one .decl (.genDecl d)
  | .labeled _ l _ s => one .label (.ident l) ++ one .stmt (.stmt s)
  | .go _ _ c | .defer _ _ c => one .call (.expr c)
  | .return_ _ _ rs => many .results .expr rs
  | .branch _ _ _ l => opt .label .ident l
  | .block _ ⟨_, stmts, _⟩ => many .list .stmt stmts
  | .if_ _ _ init cond ⟨_, stmts, _⟩ els =>
    opt .init .simpleStmt init ++ one .cond (.expr cond) ++ many .body .stmt stmts
      ++ opt .else_ .stmt els
  | .for_ _ _ .infinite ⟨_, stmts, _⟩ => many .body .stmt stmts
  | .for_ _ _ (.cond c) ⟨_, stmts, _⟩ => one .cond (.expr c) ++ many .body .stmt stmts
  | .for_ _ _ (.clause init cond post) ⟨_, stmts, _⟩ =>
    opt .init .simpleStmt init ++ opt .cond .expr cond ++ opt .post .simpleStmt post
      ++ many .body .stmt stmts
  | .for_ _ _ (.range lhs _ x) ⟨_, stmts, _⟩ =>
    rangeLhs lhs ++ one .x (.expr x) ++ many .body .stmt stmts
  | .switch _ _ init tag _ clauses _ =>
    opt .init .simpleStmt init ++ opt .tag .expr tag ++ many .body .switchClause clauses
  | .typeSwitch _ _ init bind _ x _ _ _ _ clauses _ =>
    opt .init .simpleStmt init ++ opt .name .ident bind ++ one .x (.expr x)
      ++ many .body .switchClause clauses
  | .select _ _ _ clauses _ => many .body .commClause clauses

/-- The children of a simple statement. -/
def SimpleStmt.children : SimpleStmt → List (Place × Node)
  | .expr _ x | .incDec _ x _ _ => one .x (.expr x)
  | .send _ ch _ v => one .chan (.expr ch) ++ one .value (.expr v)
  | .assign _ lhs _ _ rhs => many .lhs .expr lhs ++ many .rhs .expr rhs
  | .shortVarDecl _ names _ values => many .names .ident names ++ many .rhs .expr values

/-- The children of a switch clause. -/
def SwitchClause.children : SwitchClause → List (Place × Node)
  | .exprs _ _ items _ stmts => many .list .expr items ++ many .body .stmt stmts
  | .types _ _ items _ stmts => typeCases 0 items ++ many .body .stmt stmts

/-- The children of a select clause. -/
def CommClause.children : CommClause → List (Place × Node)
  | .send _ _ ch _ v _ stmts =>
    one .chan (.expr ch) ++ one .value (.expr v) ++ many .body .stmt stmts
  | .recv _ _ lhs x _ stmts => rangeLhs lhs ++ one .x (.expr x) ++ many .body .stmt stmts
  | .default _ _ _ stmts => many .body .stmt stmts

/-- The children of a composite literal element: its key, then its value. -/
def KeyedElement.children : KeyedElement → List (Place × Node)
  | ⟨none, _, value⟩ => element .value value
  | ⟨some key, _, value⟩ => element .key key ++ element .value value

/-- The children of an interface element. -/
def InterfaceElem.children : InterfaceElem → List (Place × Node)
  | .method name sig => one .name (.ident name) ++ one .type (.signature sig)
  | .embed t => one .type (.type t)

/-- The children of a signature: parameters, then results. -/
def Signature.children : Signature → List (Place × Node)
  | ⟨_, ⟨_, params, _⟩, none⟩ => many .params .field params
  | ⟨_, ⟨_, params, _⟩, some (.params ⟨_, results, _⟩)⟩ =>
    many .params .field params ++ many .results .field results
  | ⟨_, ⟨_, params, _⟩, some (.type t)⟩ => many .params .field params ++ one .results (.type t)

/-- The children of a field: doc, names, type and line comment. -/
def Field.children : Field → List (Place × Node)
  | ⟨_, doc, names, _, t, _, comment⟩ =>
    opt .doc .commentGroup doc ++ many .names .ident names ++ one .type (.type t)
      ++ opt .comment .commentGroup comment

/-- The children of a spec. -/
def Spec.children : Spec → List (Place × Node)
  | .import_ doc (some (.name id)) _ comment =>
    opt .doc .commentGroup doc ++ one .name (.ident id) ++ opt .comment .commentGroup comment
  | .import_ doc _ _ comment => opt .doc .commentGroup doc ++ opt .comment .commentGroup comment
  | .value doc names t _ values comment =>
    opt .doc .commentGroup doc ++ many .names .ident names ++ opt .type .type t
      ++ many .values .expr values ++ opt .comment .commentGroup comment
  | .type doc name tps _ t comment =>
    opt .doc .commentGroup doc ++ one .name (.ident name) ++ opt .typeParams .typeParams tps
      ++ one .type (.type t) ++ opt .comment .commentGroup comment

/-- The children of a general declaration: doc, then specs. -/
def GenDecl.children (d : GenDecl) : List (Place × Node) :=
  opt .doc .commentGroup d.doc ++ many .specs .spec d.specs

/-- The children of a function declaration. -/
def FuncDecl.children (f : FuncDecl) : List (Place × Node) :=
  let recv := match f.recv with
    | some r => opt .recvName .ident r.name ++ one .recv (.type r.type)
    | none => []
  let body := match f.body with
    | some b => many .body .stmt b.stmts
    | none => []
  opt .doc .commentGroup f.doc ++ recv ++ one .name (.ident f.name)
    ++ opt .typeParams .typeParams f.typeParams ++ one .type (.signature f.signature) ++ body

/-- The direct children of a node, in source order. -/
def Node.children : Node → List (Place × Node)
  | .file f =>
    opt .doc .commentGroup f.doc ++ one .name (.ident f.name) ++ many .decls TopDecl.node f.decls
  | .genDecl d => d.children
  | .spec s => s.children
  | .funcDecl f => f.children
  | .signature s => s.children
  | .field f => f.children
  | .typeParams t => many .list .typeParamDecl t.params
  | .typeParamDecl t => many .names .ident t.names ++ one .constraint (.type t.constraint)
  | .stmt s => s.children
  | .simpleStmt s => s.children
  | .switchClause c => c.children
  | .commClause c => c.children
  | .expr e => e.children
  | .keyedElement e => e.children
  | .type t => t.children
  | .interfaceElem e => e.children
  | .commentGroup g => many .list .comment g.comments
  | .comment _ | .ident _ => []

/-! ## The slot table -/

/-- What a place stores. -/
inductive Cell where
  | expr | type | stmt | simpleStmt | genDecl | topDecl | spec | signature | field
  | typeParams | typeParamDecl | switchClause | commClause | keyedElement
  | interfaceElem | commentGroup | comment | ident
  /-- An operand or callee: an expression or a type. -/
  | term
  deriving DecidableEq, Repr

/-- The values a cell holds. -/
abbrev Cell.Value : Cell → Type
  | .expr => Expr | .type => TypeExpr | .stmt => Stmt | .simpleStmt => SimpleStmt
  | .genDecl => GenDecl | .topDecl => TopDecl | .spec => Spec | .signature => Signature
  | .field => Field | .typeParams => TypeParams | .typeParamDecl => TypeParamDecl
  | .switchClause => SwitchClause | .commClause => CommClause | .keyedElement => KeyedElement
  | .interfaceElem => InterfaceElem | .commentGroup => CommentGroup | .comment => Comment
  | .ident => Ident | .term => Term

/-- The value a node gives a cell, when the cell stores the node's kind. -/
def Cell.accept : (k : Cell) → Node → Option k.Value
  | .expr, .expr e => some e
  | .type, .type t => some t
  | .stmt, .stmt s => some s
  | .simpleStmt, .simpleStmt s => some s
  | .genDecl, .genDecl d => some d
  | .topDecl, .genDecl d => some (.gen d)
  | .topDecl, .funcDecl f => some (.func f)
  | .spec, .spec s => some s
  | .signature, .signature s => some s
  | .field, .field f => some f
  | .typeParams, .typeParams t => some t
  | .typeParamDecl, .typeParamDecl t => some t
  | .switchClause, .switchClause c => some c
  | .commClause, .commClause c => some c
  | .keyedElement, .keyedElement e => some e
  | .interfaceElem, .interfaceElem e => some e
  | .commentGroup, .commentGroup g => some g
  | .comment, .comment c => some c
  | .ident, .ident id => some id
  | .term, .expr e => some (.expr e)
  | .term, .type t => some (.type t)
  | _, _ => none

/-- A place opened for writing: what it stores, and its parent rebuilt around a new value. -/
structure Hole where
  cell : Cell
  fill : cell.Value → Node

/-- The parent with `n` in the place, if the place stores `n`'s kind. -/
def Hole.store (h : Hole) (n : Node) : Option Node := (h.cell.accept n).map h.fill

/-- Why a place cannot be opened. -/
inductive SlotFailure where
  | noSuchField | empty | notAList | needsIndex | outOfRange
  deriving DecidableEq, Repr

namespace Hole

/-- A single child's place, addressed by a negative index. -/
def openOne (index : Int) (h : Hole) : Except SlotFailure Hole :=
  if index < 0 then .ok h else .error .notAList

/-- An optional child's place, which must be present. -/
def openOpt {α : Type} (index : Int) (x : Option α) (h : Hole) : Except SlotFailure Hole :=
  if 0 ≤ index then .error .notAList
  else match x with
    | some _ => .ok h
    | none => .error .empty

/-- A list element's place, addressed by its position. -/
def openNth {α : Type} (index : Int) (xs : List α) (h : Nat → Hole) : Except SlotFailure Hole :=
  if index < 0 then .error .needsIndex
  else if index.toNat < xs.length then .ok (h index.toNat) else .error .outOfRange

end Hole

open Hole

/-- The places of an expression. -/
def Expr.slot (e : Expr) (s : Slot) (index : Int) : Except SlotFailure Hole :=
  match e, s with
  | .funcLit sp fp sig ⟨lb, stmts, rb⟩, .body => openNth index stmts fun i =>
    ⟨.stmt, fun st => .expr (.funcLit sp fp sig ⟨lb, stmts.set i st, rb⟩)⟩
  | .compositeLit sp t ⟨lb, els, rb⟩, .elts => openNth index els fun i =>
    ⟨.keyedElement, fun el => .expr (.compositeLit sp t ⟨lb, els.set i el, rb⟩)⟩
  | .index sp x lb args rb, .index => openNth index args fun i =>
    ⟨.term, fun a => .expr (.index sp x lb (args.set i a) rb)⟩
  | .call sp callee lp args ell rp, .args => openNth index args fun i =>
    ⟨.term, fun a => .expr (.call sp callee lp (args.set i a) ell rp)⟩
  | .funcLit sp fp _ b, .type => openOne index ⟨.signature, fun sig => .expr (.funcLit sp fp sig b)⟩
  | .compositeLit sp _ l, .type => openOne index ⟨.type, fun t => .expr (.compositeLit sp t l)⟩
  | .index sp _ lb args rb, .x => openOne index ⟨.expr, fun x => .expr (.index sp x lb args rb)⟩
  | .paren sp lp _ rp, .x => openOne index ⟨.expr, fun x => .expr (.paren sp lp x rp)⟩
  | .selector sp _ dp sel, .x => openOne index ⟨.expr, fun x => .expr (.selector sp x dp sel)⟩
  | .slice sp _ lb lo hi mx rb, .x =>
    openOne index ⟨.expr, fun x => .expr (.slice sp x lb lo hi mx rb)⟩
  | .typeAssert sp _ dp lp t rp, .x =>
    openOne index ⟨.expr, fun x => .expr (.typeAssert sp x dp lp t rp)⟩
  | .unary sp op opPos _, .x => openOne index ⟨.expr, fun x => .expr (.unary sp op opPos x)⟩
  | .binary sp _ op opPos y, .x => openOne index ⟨.expr, fun x => .expr (.binary sp x op opPos y)⟩
  | .binary sp x op opPos _, .y => openOne index ⟨.expr, fun y => .expr (.binary sp x op opPos y)⟩
  | .selector sp x dp _, .sel => openOne index ⟨.ident, fun sel => .expr (.selector sp x dp sel)⟩
  | .slice sp x lb lo hi mx rb, .low =>
    openOpt index lo ⟨.expr, fun lo => .expr (.slice sp x lb (some lo) hi mx rb)⟩
  | .slice sp x lb lo hi mx rb, .high =>
    openOpt index hi ⟨.expr, fun hi => .expr (.slice sp x lb lo (some hi) mx rb)⟩
  | .slice sp x lb lo hi mx rb, .max =>
    openOpt index mx ⟨.expr, fun mx => .expr (.slice sp x lb lo hi (some mx) rb)⟩
  | .typeAssert sp x dp lp t rp, .type =>
    openOpt index t ⟨.type, fun t => .expr (.typeAssert sp x dp lp (some t) rp)⟩
  | .call sp _ lp args ell rp, .fun_ =>
    openOne index ⟨.term, fun c => .expr (.call sp c lp args ell rp)⟩
  | _, _ => .error .noSuchField

/-- The places of a type; a union term's place holds its type, and writing there keeps its `~`. -/
def TypeExpr.slot (t : TypeExpr) (s : Slot) (index : Int) : Except SlotFailure Hole :=
  match t, s with
  | .named sp pkg name lb args rb, .args => openNth index args fun i =>
    ⟨.type, fun a => .type (.named sp pkg name lb (args.set i a) rb)⟩
  | .struct sp p ⟨o, fields, c⟩, .fields => openNth index fields fun i =>
    ⟨.field, fun f => .type (.struct sp p ⟨o, fields.set i f, c⟩)⟩
  | .interface sp p lb elems rb, .methods => openNth index elems fun i =>
    ⟨.interfaceElem, fun e => .type (.interface sp p lb (elems.set i e) rb)⟩
  | .union sp terms, .terms => openNth index terms fun i =>
    ⟨.type, fun a => .type (.union sp (terms.modify i fun u => { u with type := a }))⟩
  | .named sp pkg _ lb args rb, .name =>
    openOne index ⟨.ident, fun n => .type (.named sp pkg n lb args rb)⟩
  | .named sp pkg name lb args rb, .pkg =>
    openOpt index pkg ⟨.ident, fun p => .type (.named sp (some p) name lb args rb)⟩
  | .pointer sp p _, .elt => openOne index ⟨.type, fun e => .type (.pointer sp p e)⟩
  | .slice sp lb rb _, .elt => openOne index ⟨.type, fun e => .type (.slice sp lb rb e)⟩
  | .chan sp d cp ap _, .elt => openOne index ⟨.type, fun e => .type (.chan sp d cp ap e)⟩
  | .array sp lb len rb _, .elt => openOne index ⟨.type, fun e => .type (.array sp lb len rb e)⟩
  | .array sp lb (.expr _) rb e, .len =>
    openOne index ⟨.expr, fun l => .type (.array sp lb (.expr l) rb e)⟩
  | .array _ _ (.ellipsis _) _ _, .len => .error .empty
  | .map sp mp lb _ rb v, .key => openOne index ⟨.type, fun k => .type (.map sp mp lb k rb v)⟩
  | .map sp mp lb k rb _, .value => openOne index ⟨.type, fun v => .type (.map sp mp lb k rb v)⟩
  | .func sp fp _, .type => openOne index ⟨.signature, fun sig => .type (.func sp fp sig)⟩
  | .paren sp lp _ rp, .x => openOne index ⟨.type, fun t => .type (.paren sp lp t rp)⟩
  | _, _ => .error .noSuchField

/-- The places of a statement. -/
def Stmt.slot (st : Stmt) (s : Slot) (index : Int) : Except SlotFailure Hole :=
  match st, s with
  | .block sp ⟨lb, stmts, rb⟩, .list => openNth index stmts fun i =>
    ⟨.stmt, fun x => .stmt (.block sp ⟨lb, stmts.set i x, rb⟩)⟩
  | .if_ sp ip init cond ⟨lb, stmts, rb⟩ els, .body => openNth index stmts fun i =>
    ⟨.stmt, fun x => .stmt (.if_ sp ip init cond ⟨lb, stmts.set i x, rb⟩ els)⟩
  | .for_ sp fp h ⟨lb, stmts, rb⟩, .body => openNth index stmts fun i =>
    ⟨.stmt, fun x => .stmt (.for_ sp fp h ⟨lb, stmts.set i x, rb⟩)⟩
  | .return_ sp rp results, .results => openNth index results fun i =>
    ⟨.expr, fun e => .stmt (.return_ sp rp (results.set i e))⟩
  | .switch sp swp init tag lb clauses rb, .body => openNth index clauses fun i =>
    ⟨.switchClause, fun c => .stmt (.switch sp swp init tag lb (clauses.set i c) rb)⟩
  | .typeSwitch sp swp init bind dp x dotPos lp rp lb clauses rb, .body =>
    openNth index clauses fun i =>
      ⟨.switchClause, fun c =>
        .stmt (.typeSwitch sp swp init bind dp x dotPos lp rp lb (clauses.set i c) rb)⟩
  | .select sp sp' lb clauses rb, .body => openNth index clauses fun i =>
    ⟨.commClause, fun c => .stmt (.select sp sp' lb (clauses.set i c) rb)⟩
  | .for_ sp fp (.range (some (.define names op)) rp x) b, .names => openNth index names fun i =>
    ⟨.ident, fun n => .stmt (.for_ sp fp (.range (some (.define (names.set i n) op)) rp x) b)⟩
  | .for_ sp fp (.range (some (.assign exprs op)) rp x) b, .lhs => openNth index exprs fun i =>
    ⟨.expr, fun e => .stmt (.for_ sp fp (.range (some (.assign (exprs.set i e) op)) rp x) b)⟩
  | .simple sp _, .stmt => openOne index ⟨.simpleStmt, fun s => .stmt (.simple sp s)⟩
  | .decl sp _, .decl => openOne index ⟨.genDecl, fun d => .stmt (.decl sp d)⟩
  | .labeled sp _ cp s, .label => openOne index ⟨.ident, fun l => .stmt (.labeled sp l cp s)⟩
  | .labeled sp l cp _, .stmt => openOne index ⟨.stmt, fun s => .stmt (.labeled sp l cp s)⟩
  | .go sp gp _, .call => openOne index ⟨.expr, fun c => .stmt (.go sp gp c)⟩
  | .defer sp dp _, .call => openOne index ⟨.expr, fun c => .stmt (.defer sp dp c)⟩
  | .branch sp k p label, .label =>
    openOpt index label ⟨.ident, fun l => .stmt (.branch sp k p (some l))⟩
  | .if_ sp ip init cond b els, .init =>
    openOpt index init ⟨.simpleStmt, fun s => .stmt (.if_ sp ip (some s) cond b els)⟩
  | .switch sp swp init tag lb clauses rb, .init =>
    openOpt index init ⟨.simpleStmt, fun s => .stmt (.switch sp swp (some s) tag lb clauses rb)⟩
  | .typeSwitch sp swp init bind dp x dotPos lp rp lb clauses rb, .init =>
    openOpt index init ⟨.simpleStmt, fun s =>
      .stmt (.typeSwitch sp swp (some s) bind dp x dotPos lp rp lb clauses rb)⟩
  | .if_ sp ip init _ b els, .cond =>
    openOne index ⟨.expr, fun c => .stmt (.if_ sp ip init c b els)⟩
  | .if_ sp ip init cond b els, .else_ =>
    openOpt index els ⟨.stmt, fun e => .stmt (.if_ sp ip init cond b (some e))⟩
  | .switch sp swp init tag lb clauses rb, .tag =>
    openOpt index tag ⟨.expr, fun t => .stmt (.switch sp swp init (some t) lb clauses rb)⟩
  | .typeSwitch sp swp init bind dp x dotPos lp rp lb clauses rb, .name =>
    openOpt index bind ⟨.ident, fun n =>
      .stmt (.typeSwitch sp swp init (some n) dp x dotPos lp rp lb clauses rb)⟩
  | .typeSwitch sp swp init bind dp _ dotPos lp rp lb clauses rb, .x =>
    openOne index ⟨.expr, fun x =>
      .stmt (.typeSwitch sp swp init bind dp x dotPos lp rp lb clauses rb)⟩
  | .for_ sp fp (.cond _) b, .cond =>
    openOne index ⟨.expr, fun c => .stmt (.for_ sp fp (.cond c) b)⟩
  | .for_ sp fp (.clause init cond post) b, .init =>
    openOpt index init ⟨.simpleStmt, fun s => .stmt (.for_ sp fp (.clause (some s) cond post) b)⟩
  | .for_ sp fp (.clause init cond post) b, .cond =>
    openOpt index cond ⟨.expr, fun c => .stmt (.for_ sp fp (.clause init (some c) post) b)⟩
  | .for_ sp fp (.clause init cond post) b, .post =>
    openOpt index post ⟨.simpleStmt, fun s => .stmt (.for_ sp fp (.clause init cond (some s)) b)⟩
  | .for_ sp fp (.range lhs rp _) b, .x =>
    openOne index ⟨.expr, fun x => .stmt (.for_ sp fp (.range lhs rp x) b)⟩
  | _, _ => .error .noSuchField

/-- The places of a simple statement. -/
def SimpleStmt.slot (st : SimpleStmt) (s : Slot) (index : Int) : Except SlotFailure Hole :=
  match st, s with
  | .assign sp lhs op opPos rhs, .lhs => openNth index lhs fun i =>
    ⟨.expr, fun e => .simpleStmt (.assign sp (lhs.set i e) op opPos rhs)⟩
  | .assign sp lhs op opPos rhs, .rhs => openNth index rhs fun i =>
    ⟨.expr, fun e => .simpleStmt (.assign sp lhs op opPos (rhs.set i e))⟩
  | .shortVarDecl sp names opPos values, .rhs => openNth index values fun i =>
    ⟨.expr, fun e => .simpleStmt (.shortVarDecl sp names opPos (values.set i e))⟩
  | .shortVarDecl sp names opPos values, .names => openNth index names fun i =>
    ⟨.ident, fun n => .simpleStmt (.shortVarDecl sp (names.set i n) opPos values)⟩
  | .expr sp _, .x => openOne index ⟨.expr, fun x => .simpleStmt (.expr sp x)⟩
  | .incDec sp _ op opPos, .x => openOne index ⟨.expr, fun x => .simpleStmt (.incDec sp x op opPos)⟩
  | .send sp _ ap v, .chan => openOne index ⟨.expr, fun c => .simpleStmt (.send sp c ap v)⟩
  | .send sp c ap _, .value => openOne index ⟨.expr, fun v => .simpleStmt (.send sp c ap v)⟩
  | _, _ => .error .noSuchField

/-- The places of a switch clause; a type case's place takes a type. -/
def SwitchClause.slot (c : SwitchClause) (s : Slot) (index : Int) : Except SlotFailure Hole :=
  match c, s with
  | .exprs sp cp items colon stmts, .list => openNth index items fun i =>
    ⟨.expr, fun e => .switchClause (.exprs sp cp (items.set i e) colon stmts)⟩
  | .types sp cp items colon stmts, .list => openNth index items fun i =>
    ⟨.type, fun t => .switchClause (.types sp cp (items.set i (.type t)) colon stmts)⟩
  | .exprs sp cp items colon stmts, .body => openNth index stmts fun i =>
    ⟨.stmt, fun st => .switchClause (.exprs sp cp items colon (stmts.set i st))⟩
  | .types sp cp items colon stmts, .body => openNth index stmts fun i =>
    ⟨.stmt, fun st => .switchClause (.types sp cp items colon (stmts.set i st))⟩
  | _, _ => .error .noSuchField

/-- The places of a select clause. -/
def CommClause.slot (c : CommClause) (s : Slot) (index : Int) : Except SlotFailure Hole :=
  match c, s with
  | .send sp cp ch ap v colon stmts, .body => openNth index stmts fun i =>
    ⟨.stmt, fun st => .commClause (.send sp cp ch ap v colon (stmts.set i st))⟩
  | .recv sp cp lhs x colon stmts, .body => openNth index stmts fun i =>
    ⟨.stmt, fun st => .commClause (.recv sp cp lhs x colon (stmts.set i st))⟩
  | .default sp dp colon stmts, .body => openNth index stmts fun i =>
    ⟨.stmt, fun st => .commClause (.default sp dp colon (stmts.set i st))⟩
  | .recv sp cp (some (.define names op)) x colon stmts, .names => openNth index names fun i =>
    ⟨.ident, fun n => .commClause (.recv sp cp (some (.define (names.set i n) op)) x colon stmts)⟩
  | .recv sp cp (some (.assign exprs op)) x colon stmts, .lhs => openNth index exprs fun i =>
    ⟨.expr, fun e => .commClause (.recv sp cp (some (.assign (exprs.set i e) op)) x colon stmts)⟩
  | .send sp cp _ ap v colon stmts, .chan =>
    openOne index ⟨.expr, fun ch => .commClause (.send sp cp ch ap v colon stmts)⟩
  | .send sp cp ch ap _ colon stmts, .value =>
    openOne index ⟨.expr, fun v => .commClause (.send sp cp ch ap v colon stmts)⟩
  | .recv sp cp lhs _ colon stmts, .x =>
    openOne index ⟨.expr, fun x => .commClause (.recv sp cp lhs x colon stmts)⟩
  | _, _ => .error .noSuchField

/-- The places of a composite literal element: a nested literal's elements, or the key or
value expression. -/
def KeyedElement.slot (e : KeyedElement) (s : Slot) (index : Int) : Except SlotFailure Hole :=
  match e, s with
  | ⟨some (.literal ⟨lb, els, rb⟩), colon, value⟩, .key => openNth index els fun i =>
    ⟨.keyedElement, fun el => .keyedElement ⟨some (.literal ⟨lb, els.set i el, rb⟩), colon, value⟩⟩
  | ⟨key, colon, .literal ⟨lb, els, rb⟩⟩, .value => openNth index els fun i =>
    ⟨.keyedElement, fun el => .keyedElement ⟨key, colon, .literal ⟨lb, els.set i el, rb⟩⟩⟩
  | ⟨none, _, _⟩, .key => .error .empty
  | ⟨some (.expr _), colon, value⟩, .key =>
    openOne index ⟨.expr, fun k => .keyedElement ⟨some (.expr k), colon, value⟩⟩
  | ⟨key, colon, .expr _⟩, .value =>
    openOne index ⟨.expr, fun v => .keyedElement ⟨key, colon, .expr v⟩⟩
  | _, _ => .error .noSuchField

/-- The places of an interface element. -/
def InterfaceElem.slot (e : InterfaceElem) (s : Slot) (index : Int) : Except SlotFailure Hole :=
  match e, s with
  | .method _ sig, .name => openOne index ⟨.ident, fun n => .interfaceElem (.method n sig)⟩
  | .method name _, .type =>
    openOne index ⟨.signature, fun sig => .interfaceElem (.method name sig)⟩
  | .embed _, .type => openOne index ⟨.type, fun t => .interfaceElem (.embed t)⟩
  | _, _ => .error .noSuchField

/-- The places of a signature. -/
def Signature.slot (sig : Signature) (s : Slot) (index : Int) : Except SlotFailure Hole :=
  match sig, s with
  | ⟨sp, ⟨o, params, c⟩, results⟩, .params => openNth index params fun i =>
    ⟨.field, fun f => .signature ⟨sp, ⟨o, params.set i f, c⟩, results⟩⟩
  | ⟨sp, params, some (.params ⟨o, fields, c⟩)⟩, .results => openNth index fields fun i =>
    ⟨.field, fun f => .signature ⟨sp, params, some (.params ⟨o, fields.set i f, c⟩)⟩⟩
  | ⟨sp, params, some (.type _)⟩, .results =>
    openOne index ⟨.type, fun t => .signature ⟨sp, params, some (.type t)⟩⟩
  | ⟨_, _, none⟩, .results => .error .empty
  | _, _ => .error .noSuchField

/-- The places of a field. -/
def Field.slot (f : Field) (s : Slot) (index : Int) : Except SlotFailure Hole :=
  match f, s with
  | ⟨sp, doc, names, ell, t, tag, cmt⟩, .names => openNth index names fun i =>
    ⟨.ident, fun n => .field ⟨sp, doc, names.set i n, ell, t, tag, cmt⟩⟩
  | ⟨sp, doc, names, ell, t, tag, cmt⟩, .doc =>
    openOpt index doc ⟨.commentGroup, fun g => .field ⟨sp, some g, names, ell, t, tag, cmt⟩⟩
  | ⟨sp, doc, names, ell, _, tag, cmt⟩, .type =>
    openOne index ⟨.type, fun t => .field ⟨sp, doc, names, ell, t, tag, cmt⟩⟩
  | ⟨sp, doc, names, ell, t, tag, cmt⟩, .comment =>
    openOpt index cmt ⟨.commentGroup, fun g => .field ⟨sp, doc, names, ell, t, tag, some g⟩⟩
  | _, _ => .error .noSuchField

/-- The places of a spec. -/
def Spec.slot (spec : Spec) (s : Slot) (index : Int) : Except SlotFailure Hole :=
  match spec, s with
  | .value doc names t ap values cmt, .names => openNth index names fun i =>
    ⟨.ident, fun n => .spec (.value doc (names.set i n) t ap values cmt)⟩
  | .value doc names t ap values cmt, .values => openNth index values fun i =>
    ⟨.expr, fun e => .spec (.value doc names t ap (values.set i e) cmt)⟩
  | .import_ doc name path cmt, .doc =>
    openOpt index doc ⟨.commentGroup, fun g => .spec (.import_ (some g) name path cmt)⟩
  | .import_ doc name path cmt, .comment =>
    openOpt index cmt ⟨.commentGroup, fun g => .spec (.import_ doc name path (some g))⟩
  | .import_ doc (some (.name _)) path cmt, .name =>
    openOne index ⟨.ident, fun n => .spec (.import_ doc (some (.name n)) path cmt)⟩
  | .import_ .., .name => .error .empty
  | .value doc names t ap values cmt, .doc =>
    openOpt index doc ⟨.commentGroup, fun g => .spec (.value (some g) names t ap values cmt)⟩
  | .value doc names t ap values cmt, .type =>
    openOpt index t ⟨.type, fun t => .spec (.value doc names (some t) ap values cmt)⟩
  | .value doc names t ap values cmt, .comment =>
    openOpt index cmt ⟨.commentGroup, fun g => .spec (.value doc names t ap values (some g))⟩
  | .type doc name tps ap t cmt, .doc =>
    openOpt index doc ⟨.commentGroup, fun g => .spec (.type (some g) name tps ap t cmt)⟩
  | .type doc _ tps ap t cmt, .name =>
    openOne index ⟨.ident, fun n => .spec (.type doc n tps ap t cmt)⟩
  | .type doc name tps ap t cmt, .typeParams =>
    openOpt index tps ⟨.typeParams, fun tp => .spec (.type doc name (some tp) ap t cmt)⟩
  | .type doc name tps ap _ cmt, .type =>
    openOne index ⟨.type, fun t => .spec (.type doc name tps ap t cmt)⟩
  | .type doc name tps ap t cmt, .comment =>
    openOpt index cmt ⟨.commentGroup, fun g => .spec (.type doc name tps ap t (some g))⟩
  | _, _ => .error .noSuchField

/-- The places of a function declaration; the receiver's places need a receiver, the body's
a body. -/
def FuncDecl.slot (f : FuncDecl) (s : Slot) (index : Int) : Except SlotFailure Hole :=
  match s with
  | .body => match f.body with
    | some ⟨lb, stmts, rb⟩ => openNth index stmts fun i =>
      ⟨.stmt, fun st => .funcDecl { f with body := some ⟨lb, stmts.set i st, rb⟩ }⟩
    | none => .error .empty
  | .doc => openOpt index f.doc ⟨.commentGroup, fun g => .funcDecl { f with doc := some g }⟩
  | .recvName => match f.recv with
    | some r =>
      openOpt index r.name
        ⟨.ident, fun n => .funcDecl { f with recv := some { r with name := some n } }⟩
    | none => .error .empty
  | .recv => match f.recv with
    | some r =>
      openOne index ⟨.type, fun t => .funcDecl { f with recv := some { r with type := t } }⟩
    | none => .error .empty
  | .name => openOne index ⟨.ident, fun n => .funcDecl { f with name := n }⟩
  | .typeParams =>
    openOpt index f.typeParams ⟨.typeParams, fun tp => .funcDecl { f with typeParams := some tp }⟩
  | .type => openOne index ⟨.signature, fun sig => .funcDecl { f with signature := sig }⟩
  | _ => .error .noSuchField

/-- The places of any node. -/
def Node.slot (n : Node) (s : Slot) (index : Int) : Except SlotFailure Hole :=
  match n, s with
  | .file f, .doc => openOpt index f.doc ⟨.commentGroup, fun g => .file { f with doc := some g }⟩
  | .file f, .name => openOne index ⟨.ident, fun n => .file { f with name := n }⟩
  | .file f, .decls => openNth index f.decls fun i =>
    ⟨.topDecl, fun d => .file { f with decls := f.decls.set i d }⟩
  | .genDecl d, .doc =>
    openOpt index d.doc ⟨.commentGroup, fun g => .genDecl { d with doc := some g }⟩
  | .genDecl d, .specs => openNth index d.specs fun i =>
    ⟨.spec, fun sp => .genDecl { d with specs := d.specs.set i sp }⟩
  | .spec sp, s => sp.slot s index
  | .funcDecl f, s => f.slot s index
  | .signature sig, s => sig.slot s index
  | .field f, s => f.slot s index
  | .typeParams t, .list => openNth index t.params fun i =>
    ⟨.typeParamDecl, fun d => .typeParams { t with params := t.params.set i d }⟩
  | .typeParamDecl t, .names => openNth index t.names fun i =>
    ⟨.ident, fun n => .typeParamDecl { t with names := t.names.set i n }⟩
  | .typeParamDecl t, .constraint =>
    openOne index ⟨.type, fun c => .typeParamDecl { t with constraint := c }⟩
  | .stmt st, s => st.slot s index
  | .simpleStmt st, s => st.slot s index
  | .switchClause c, s => c.slot s index
  | .commClause c, s => c.slot s index
  | .expr e, s => e.slot s index
  | .keyedElement e, s => e.slot s index
  | .type t, s => t.slot s index
  | .interfaceElem e, s => e.slot s index
  | .commentGroup g, .list => openNth index g.comments fun i =>
    ⟨.comment, fun c => .commentGroup
      { g with comments := g.comments.set i c, nonempty := by simpa using g.nonempty }⟩
  | _, _ => .error .noSuchField

/-! ## Replacing a child -/

/-- Why a child cannot be replaced. -/
inductive StructuralError where
  | noSuchField (parent : NodeKind) (slot : Slot)
  | emptySlot (parent : NodeKind) (slot : Slot)
  | notAList (parent : NodeKind) (slot : Slot)
  | needsIndex (parent : NodeKind) (slot : Slot)
  | indexOutOfRange (parent : NodeKind) (slot : Slot) (index : Int)
  | kindMismatch (parent : NodeKind) (slot : Slot) (found : NodeKind)
  deriving DecidableEq, Repr

/-- The text of a structural error. -/
def StructuralError.message : StructuralError → String
  | .noSuchField p s => p.text ++ " has no field " ++ s.text
  | .emptySlot p s => p.text ++ "." ++ s.text ++ " is absent"
  | .notAList p s => p.text ++ "." ++ s.text ++ " is not a list"
  | .needsIndex p s => p.text ++ "." ++ s.text ++ " is a list and needs an index"
  | .indexOutOfRange p s i =>
    "index " ++ toString i ++ " out of range for " ++ p.text ++ "." ++ s.text
  | .kindMismatch p s k => "cannot store " ++ k.text ++ " in " ++ p.text ++ "." ++ s.text

/-- The structural error of a place that cannot be opened. -/
def SlotFailure.toError (parent : NodeKind) (s : Slot) (index : Int) :
    SlotFailure → StructuralError
  | .noSuchField => .noSuchField parent s
  | .empty => .emptySlot parent s
  | .notAList => .notAList parent s
  | .needsIndex => .needsIndex parent s
  | .outOfRange => .indexOutOfRange parent s index

/-- The parent with `new` in the place `(s, index)`. Element-valued places (specs, literal
elements, interface elements) take a copy of the element. -/
def Node.replaceField (parent : Node) (s : Slot) (index : Int) (new : Node) :
    Except StructuralError Node :=
  match parent.slot s index with
  | .error f => .error (f.toError parent.kind s index)
  | .ok h => match h.store new with
    | some n => .ok n
    | none => .error (.kindMismatch parent.kind s new.kind)

end GoTemplates.Syntax
