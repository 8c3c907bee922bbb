import BraceScript.Proofs.Lowering.Identifiers
import BraceScript.Proofs.Syntax.InOrder

/-!
# Names are words

What a source gives a name to is called by a word (`IsWord`): it is not empty, and it has only
characters that names go on with. A tree comes of such tokens (`Worded`), and generated code puts
nothing but underscores and the name of a class to a name. So all members that a class is given by
its code, and all attributes that the code assigns, are called by words (`namedByWords_classCode`).
-/

namespace BraceScript.Syntax

/-! ## Words -/

/-- What can be a name: a text that is not empty, of characters that names go on with. -/
def IsWord (x : String) : Prop := x ≠ "" ∧ ∀ c ∈ x.toList, isNameRest c

instance (x : String) : Decidable (IsWord x) :=
  decidable_of_iff (x.toList.isEmpty = false ∧ x.toList.all isNameRest = true) <| by
    rw [IsWord, List.all_eq_true, List.isEmpty_eq_false_iff, ne_eq, String.toList_eq_nil_iff]

theorem IsWord.append {x y : String} (hx : IsWord x) (hy : IsWord y) : IsWord (x ++ y) := by
  refine ⟨fun h => hx.1 (String.append_eq_empty_iff.mp h).1, ?_⟩
  rw [String.toList_append]
  exact List.forall_mem_append.mpr ⟨hx.2, hy.2⟩

theorem isWord_underscore : IsWord "_" := by decide +kernel

/-- There is no point in a word. -/
theorem IsWord.point_notMem {x : String} (h : IsWord x) : '.' ∉ x.toList := fun hpoint =>
  absurd (h.2 '.' hpoint) (by decide)

/-- A name is a word. -/
theorem isWord_of_scan {source : List Char} {t : Token} (ht : t ∈ (scan source).tokens)
    (hname : t.kind = .name) : IsWord t.text := by
  obtain ⟨-, c, rest, n, -, -, hpiece, htext⟩ := scan_pieces ht
  rw [hname] at hpiece
  have hsign (d : Char) (ds : List Char) : signPiece d ds ≠ .token .name n := by
    intro h
    unfold signPiece at h
    split at h <;> cases h
  rw [htext]
  unfold pieceAt at hpiece
  split at hpiece
  · cases hpiece
  split at hpiece
  · next hstart =>
    obtain ⟨-, hlength⟩ := Piece.token.inj hpiece
    refine ⟨by simp, fun d hd => ?_⟩
    rw [String.toList_ofList, ← hlength, take_length_takeWhile] at hd
    rcases List.mem_cons.mp hd with rfl | hd
    · unfold isNameStart at hstart
      unfold isNameRest Char.isAlphanum
      grind
    · exact List.mem_takeWhile_imp hd
  split at hpiece
  · cases hpiece
  split at hpiece
  · split at hpiece <;> cases hpiece
  · split at hpiece <;> cases hpiece
  · cases hpiece
  · split at hpiece
    · cases hpiece
    · exact absurd hpiece (hsign _ _)
  · exact absurd hpiece (hsign _ _)

/-! ## Trees -/

/-- A language with a spelling in which all names are words. -/
def Worded (l : Language Token) : Prop := ∃ ts ∈ l, ∀ t ∈ ts, t.kind = .name → IsWord t.text

section
variable {l m : Language Token}

@[simp]
theorem worded_mul : Worded (l * m) ↔ Worded l ∧ Worded m := by
  constructor
  · rintro ⟨_, ⟨ts, hts, us, hus, rfl⟩, h⟩
    obtain ⟨h, h'⟩ := List.forall_mem_append.mp h
    exact ⟨⟨ts, hts, h⟩, us, hus, h'⟩
  · rintro ⟨⟨ts, hts, h⟩, us, hus, h'⟩
    exact ⟨ts ++ us, Language.mem_mul.mpr ⟨ts, hts, us, hus, rfl⟩,
      List.forall_mem_append.mpr ⟨h, h'⟩⟩

theorem worded_prod {ls : List (Language Token)} : Worded ls.prod ↔ ∀ l ∈ ls, Worded l := by
  induction ls with
  | nil => simpa using ⟨[], rfl, List.forall_mem_nil _⟩
  | cons l ls ih => rw [List.prod_cons, worded_mul, ih, List.forall_mem_cons]

theorem worded_name {t : Token} (h : Worded (Spelling.name t)) : IsWord t.text := by
  obtain ⟨_, ⟨hkind, rfl⟩, h⟩ := h
  exact h t List.mem_cons_self (List.mem_singleton.mp hkind)

theorem worded_fixed {k : Kind} (hk : k ≠ .name) : Worded (Spelling.fixed k) :=
  ⟨[⟨k, "", .start⟩], ⟨_, rfl, rfl⟩, List.forall_mem_singleton.mpr fun h => absurd h hk⟩

@[simp]
theorem worded_word (k : Keyword) : Worded (Spelling.word k) := worded_fixed (by simp)

@[simp]
theorem worded_sign (s : Sign) : Worded (Spelling.sign s) := worded_fixed (by simp)

@[simp]
theorem worded_braces : Worded (Spelling.braces l) ↔ Worded l := by simp [Spelling.braces]

@[simp]
theorem worded_parens : Worded (Spelling.parens l) ↔ Worded l := by simp [Spelling.parens]

end

open Spelling

/-- The classes of a file are worded. -/
theorem worded_ofClass {source : List Char} {f : SourceFile} (h : parse source = .ok f)
    {c : ClassDecl} (hc : c ∈ f.classes) : Worded (ofClass c) := by
  obtain ⟨-, htokens⟩ := parse_eq_ok_iff.mp h
  have hfile : Worded (ofFile f) :=
    ⟨_, parseTokens_eq_ok_iff.mp htokens, fun t ht hname => isWord_of_scan ht hname⟩
  exact worded_prod.mp (worded_mul.mp hfile).2 _ (List.mem_map_of_mem hc)

end BraceScript.Syntax

namespace BraceScript.Lowering

open Syntax
open Spelling hiding name
open Code (ident privateName)
open Eval (attrsSet attrsSetAll attrsSetTail attrsSetHandlers targetAttr)

/-! ## Names of generated code -/

/-- An identifier is a word just if the name is one. -/
theorem isWord_ident {x : String} : IsWord (ident x) ↔ IsWord x := by
  by_cases hx : x ∈ Code.reservedWords ∨ x = Code.selfName
  · have hwords : ∀ w ∈ Code.selfName :: Code.reservedWords, IsWord w ∧ IsWord (w ++ "_") := by
      decide +kernel
    obtain ⟨hword, hescaped⟩ := hwords x (List.mem_cons.mpr hx.symm)
    rw [ident_of_reserved hx]
    exact iff_of_true hescaped hword
  · rw [ident_of_free hx]

/-- What is meant by a word in a class with a word for a name is a word. -/
theorem IsWord.privateName {cls x : String} (hcls : IsWord cls) (hx : IsWord x) :
    IsWord (privateName cls x) := by
  rcases privateName_cases cls x with ⟨-, howner, hname⟩ | ⟨hname, -⟩
  · rw [hname]
    refine (isWord_underscore.append ⟨howner, fun c hc => hcls.2 c ?_⟩).append hx
    rw [ownerName, String.toList_ofList] at hc
    exact (List.dropWhile_sublist _).subset hc
  · rwa [hname]

/-! ## Attributes that statements assign -/

/-- Statements that assign no attributes but words. -/
def SetsWords (b : List Code.Stmt) : Prop := ∀ y ∈ attrsSetAll b, IsWord y

theorem setsWords_append {b b' : List Code.Stmt} :
    SetsWords (b ++ b') ↔ SetsWords b ∧ SetsWords b' := by
  have happend : attrsSetAll (b ++ b') = attrsSetAll b ++ attrsSetAll b' := by
    induction b with
    | nil => rfl
    | cons st b ih => rw [List.cons_append, attrsSetAll, ih, attrsSetAll, List.append_assoc]
  rw [SetsWords, happend, List.forall_mem_append]
  rfl

theorem setsWords_singleton {st : Code.Stmt} :
    SetsWords [st] ↔ ∀ y ∈ attrsSet st, IsWord y := by
  rw [SetsWords, attrsSetAll, attrsSetAll, List.append_nil]

theorem setsWords_blockCode {b : List Code.Stmt} : SetsWords (blockCode b) ↔ SetsWords b := by
  unfold blockCode
  split
  · next h =>
    rw [List.isEmpty_iff.mp h]
    exact Iff.rfl
  · rfl

/-- A loop assigns what its step and its body do. -/
theorem setsWords_loopCode {c : Option Code.Expr} {st : Option Code.Stmt} {b : List Code.Stmt}
    {n : Nat} (hst : SetsWords st.toList) (hb : SetsWords b) : SetsWords (loopCode c st b n).1 := by
  cases st with
  | none => exact setsWords_singleton.mpr hb
  | some st =>
    unfold loopCode
    simp only
    split
    · simp only [flaggedLoop, SetsWords, attrsSetAll, attrsSet, attrsSetTail, targetAttr,
        List.nil_append, List.append_nil, List.forall_mem_append]
      exact ⟨setsWords_singleton.mp hst, hb⟩
    · exact setsWords_singleton.mpr (setsWords_append.mpr ⟨hb, hst⟩)

section
variable {s : Scope}

/-- What stands behind a product is assigned to nothing. -/
theorem targetAttr_trail (f : Code.Expr → Code.Expr) (e : Code.Expr) :
    targetAttr (e.trail f) = targetAttr (f e) ∨ targetAttr (e.trail f) = [] := by
  cases e with
  | binary op l r =>
    cases op with
    | mul => exact .inr rfl
    | _ => exact .inl rfl
  | _ => exact .inl rfl

theorem targetAttr_withAttr (x : String) (e : Code.Expr) : targetAttr (e.withAttr x) ⊆ [x] := by
  unfold Code.Expr.withAttr
  split
  · split
    · exact List.nil_subset _
    · exact List.Subset.refl _
  · exact List.Subset.refl _

/-- A class whose members are called by words. -/
structure MembersWords (names : ClassNames) : Prop where
  statics : ∀ x ∈ names.statics, IsWord x
  instances : ∀ x ∈ names.instances, IsWord x

/-- A bare name that stands for an attribute stands for a member of the class. -/
theorem targetAttr_scopeCode (hs : MembersWords s.names) (x : String) :
    ∀ y ∈ targetAttr (s.codeOf x), IsWord y := by
  have hword (hx : x ∈ s.names.statics ∨ x ∈ s.names.instances) :
      ∀ y ∈ [ident x], IsWord y :=
    List.forall_mem_singleton.mpr (isWord_ident.mpr (hx.elim (hs.statics x) (hs.instances x)))
  unfold Scope.codeOf Scope.meaning
  split
  · next hmeaning =>
    split
    · exact List.forall_mem_nil _
    · exact hword (by grind)
  · next hmeaning => exact hword (by grind)
  · exact List.forall_mem_nil _
  · exact List.forall_mem_nil _

/-- The attribute that a target is has its name from a member of the class or from the target. -/
theorem targetAttr_targetCode (hs : MembersWords s.names) {t : Target} (h : Worded (ofTarget t)) :
    ∀ y ∈ targetAttr (targetCode s t), IsWord y := by
  cases t with
  | name x => exact targetAttr_scopeCode hs x.text
  | member e x =>
    simp only [ofTarget, worded_mul] at h
    have hx : IsWord (ident x.text) := isWord_ident.mpr (worded_name h.2)
    show ∀ y ∈ targetAttr (memberCode (codeOf s e) x.text), IsWord y
    unfold memberCode
    split
    · exact List.forall_mem_nil _
    · rcases targetAttr_trail (.withAttr (ident x.text)) (codeOf s e) with htrail | htrail
      · rw [htrail]
        intro y hy
        rwa [List.mem_singleton.mp (targetAttr_withAttr _ _ hy)]
      · rw [htrail]
        exact List.forall_mem_nil _
  | index e i =>
    show ∀ y ∈ targetAttr ((codeOf s e).trail (.index · (codeOf s i))), IsWord y
    rcases targetAttr_trail (.index · (codeOf s i)) (codeOf s e) with htrail | htrail
    · rw [htrail]
      exact List.forall_mem_nil _
    · rw [htrail]
      exact List.forall_mem_nil _

/-! ## Statements -/

theorem setsWords_assignCode (hs : MembersWords s.names) (op : AssignOp) {t : Target} (e : Expr)
    (h : Worded (ofTarget t)) : SetsWords [assignCode op (targetCode s t) (codeOf s e)] := by
  rw [setsWords_singleton]
  cases op <;> exact targetAttr_targetCode hs h

theorem setsWords_stepCode (hs : MembersWords s.names) (op : StepOp) {t : Target}
    (h : Worded (ofTarget t)) : SetsWords [stepCode op (targetCode s t)] := by
  rw [setsWords_singleton]
  cases op <;> exact targetAttr_targetCode hs h

theorem setsWords_forInitCode (hs : MembersWords s.names) {i : Option ForInit}
    (h : Worded (ofOption ofForInit i)) : SetsWords (forInitCode s i) := by
  match i with
  | none => exact List.forall_mem_nil _
  | some (.declare d) => exact List.forall_mem_nil _
  | some (.assign t op e) =>
    simp only [ofOption, ofForInit, ofAssign, worded_mul] at h
    exact setsWords_assignCode hs op e h.1.1

theorem setsWords_forStepCode (hs : MembersWords s.names) {st : Option ForStep}
    (h : Worded (ofOption ofForStep st)) : SetsWords (st.map (forStepCode s)).toList := by
  match st with
  | none => exact List.forall_mem_nil _
  | some (.assign t op e) =>
    simp only [ofOption, ofForStep, ofAssign, worded_mul] at h
    exact setsWords_assignCode hs op e h.1.1
  | some (.step t op) =>
    simp only [ofOption, ofForStep, ofStep, worded_mul] at h
    exact setsWords_stepCode hs op h.1
  | some (.expr e) => exact List.forall_mem_nil _

mutual

/-- The code of a worded statement assigns words. -/
theorem setsWords_stmtCode (hs : MembersWords s.names) (n : Nat) : ∀ {st : Stmt},
    Worded (ofStmt st) → SetsWords (stmtCode s n st).1
  | .assign t op e, h => by
    obtain ⟨ht, -⟩ : Worded (ofTarget t) ∧ Worded (ofExpr e) := by
      simpa [ofStmt, ofAssign] using h
    exact setsWords_assignCode hs op e ht
  | .step t op, h => by
    have ht : Worded (ofTarget t) := by simpa [ofStmt, ofStep] using h
    exact setsWords_stepCode hs op ht
  | .ite c b r, h => by
    obtain ⟨⟨-, hb⟩, hr⟩ : (Worded (ofExpr c) ∧ Worded (ofStmts b)) ∧ Worded (ofElse r) := by
      simpa [ofStmt] using h
    have hbody := setsWords_blockCode.mpr (setsWords_bodyCode hs n hb)
    have hrest := setsWords_elseCode hs (bodyCode s n b).2 hr
    exact setsWords_singleton.mpr (List.forall_mem_append.mpr ⟨hbody, hrest⟩)
  | .while c b, h => by
    obtain ⟨-, hb⟩ : Worded (ofExpr c) ∧ Worded (ofStmts b) := by simpa [ofStmt] using h
    exact setsWords_singleton.mpr (setsWords_blockCode.mpr (setsWords_bodyCode hs n hb))
  | .for i c st b, h => by
    obtain ⟨⟨⟨hi, -⟩, hst⟩, hb⟩ : ((Worded (ofOption ofForInit i) ∧ Worded (ofOption ofExpr c))
        ∧ Worded (ofOption ofForStep st)) ∧ Worded (ofStmts b) := by simpa [ofStmt] using h
    have hbody := setsWords_blockCode.mpr (setsWords_bodyCode hs n hb)
    refine setsWords_append.mpr ⟨setsWords_forInitCode hs hi, ?_⟩
    exact setsWords_loopCode (setsWords_forStepCode hs hst) hbody
  | .foreach t x e b, h => by
    obtain ⟨-, hb⟩ : ((Worded (ofType t) ∧ Worded (Spelling.name x)) ∧ Worded (ofExpr e))
        ∧ Worded (ofStmts b) := by simpa [ofStmt] using h
    exact setsWords_singleton.mpr (setsWords_blockCode.mpr (setsWords_bodyCode hs n hb))
  | .attempt b hs' none, h => by
    obtain ⟨-, hb, hhandlers⟩ : Worded (given (hs' ≠ [])) ∧ Worded (ofStmts b)
        ∧ Worded (ofHandlers hs') := by simpa [ofStmt, and_assoc] using h
    have hbody := setsWords_blockCode.mpr (setsWords_bodyCode hs n hb)
    have hrest := setsWords_handlersCode hs (bodyCode s n b).2 hhandlers
    exact setsWords_singleton.mpr (List.forall_mem_append.mpr ⟨hbody, hrest⟩)
  | .attempt b hs' (some f), h => by
    obtain ⟨⟨hb, hhandlers⟩, hf⟩ : (Worded (ofStmts b) ∧ Worded (ofHandlers hs'))
        ∧ Worded (ofStmts f) := by simpa [ofStmt] using h
    have hbody := setsWords_blockCode.mpr (setsWords_bodyCode hs n hb)
    have hrest := setsWords_handlersCode hs (bodyCode s n b).2 hhandlers
    have hcleanup := setsWords_blockCode.mpr
      (setsWords_bodyCode hs (handlersCode s (bodyCode s n b).2 hs').2 hf)
    exact setsWords_singleton.mpr (List.forall_mem_append.mpr
      ⟨List.forall_mem_append.mpr ⟨hbody, hrest⟩, hcleanup⟩)
  | .block b, h => by
    have hb : Worded (ofStmts b) := by simpa [ofStmt] using h
    exact setsWords_blockCode.mpr (setsWords_bodyCode hs n hb)
  | .declare _, _ | .ret _, _ | .brk, _ | .cont, _ | .throw _, _ | .expr _, _ => List.forall_mem_nil _

/-- The code of worded statements assigns words. -/
theorem setsWords_bodyCode (hs : MembersWords s.names) (n : Nat) : ∀ {b : List Stmt},
    Worded (ofStmts b) → SetsWords (bodyCode s n b).1
  | [], _ => List.forall_mem_nil _
  | st :: b, h => by
    obtain ⟨hfirst, hrest⟩ : Worded (ofStmt st) ∧ Worded (ofStmts b) := by
      simpa [ofStmts] using h
    exact setsWords_append.mpr ⟨setsWords_stmtCode hs n hfirst, setsWords_bodyCode hs _ hrest⟩

/-- The same of the rest of a conditional. -/
theorem setsWords_elseCode (hs : MembersWords s.names) (n : Nat) : ∀ {r : Else},
    Worded (ofElse r) → ∀ y ∈ attrsSetTail (elseCode s n r).1, IsWord y
  | .none, _ => List.forall_mem_nil _
  | .block b, h => by
    have hb : Worded (ofStmts b) := by simpa [ofElse] using h
    exact setsWords_blockCode.mpr (setsWords_bodyCode hs n hb)
  | .elseIf c b r, h => by
    obtain ⟨⟨-, hb⟩, hr⟩ : (Worded (ofExpr c) ∧ Worded (ofStmts b)) ∧ Worded (ofElse r) := by
      simpa [ofElse] using h
    have hbody := setsWords_blockCode.mpr (setsWords_bodyCode hs n hb)
    exact List.forall_mem_append.mpr ⟨hbody, setsWords_elseCode hs _ hr⟩

/-- The same of handlers. -/
theorem setsWords_handlersCode (hs : MembersWords s.names) (n : Nat) : ∀ {hs' : List Handler},
    Worded (ofHandlers hs') → ∀ y ∈ attrsSetHandlers (handlersCode s n hs').1, IsWord y
  | [], _ => List.forall_mem_nil _
  | .mk f b :: hs', h => by
    obtain ⟨⟨-, hb⟩, hrest⟩ : (Worded (ofOption ofFilter f) ∧ Worded (ofStmts b))
        ∧ Worded (ofHandlers hs') := by simpa [ofHandlers] using h
    have hbody := setsWords_blockCode.mpr (setsWords_bodyCode hs n hb)
    exact List.forall_mem_append.mpr ⟨hbody, setsWords_handlersCode hs _ hrest⟩

end

end

/-! ## Classes -/

/-- The code of a class whose functions, fields and assigned attributes are called by words. -/
structure NamedByWords (k : Code.Class) : Prop where
  name : IsWord k.name
  functions : ∀ f ∈ k.functions, IsWord f.name ∧ SetsWords f.body
  fields : ∀ e ∈ k.fields, IsWord e.1

/-- The same of the code of a class in progress. -/
structure Pieces.NamedByWords (p : Pieces) : Prop where
  methods : ∀ f ∈ p.methods, IsWord f.name ∧ SetsWords f.body
  constructor : ∀ r ∈ p.constructor?, SetsWords r.2
  instanceFields : SetsWords p.instanceFields
  staticFields : ∀ e ∈ p.staticFields, IsWord e.1

/-- Every member adds words. -/
theorem memberCodeOf_namedByWords {names : ClassNames} (hs : MembersWords names) {p : Pieces}
    (hp : p.NamedByWords) (n : Nat) {m : Member} (h : Worded (ofMember m)) :
    (memberCodeOf names p n m).1.NamedByWords := by
  cases m with
  | field ms d =>
    have hname : IsWord (ident d.name.text) := by
      simp only [ofMember, ofDeclaration, worded_mul] at h
      exact isWord_ident.mpr (worded_name h.1.2.1.2)
    by_cases hstatic : isStatic ms
    · simp only [memberCodeOf, hstatic, if_true]
      exact ⟨hp.methods, hp.constructor, hp.instanceFields, List.forall_mem_append.mpr
        ⟨hp.staticFields, List.forall_mem_singleton.mpr hname⟩⟩
    · simp only [memberCodeOf, hstatic, Bool.false_eq_true, if_false]
      exact ⟨hp.methods, hp.constructor, setsWords_append.mpr
        ⟨hp.instanceFields, setsWords_singleton.mpr (List.forall_mem_singleton.mpr hname)⟩,
        hp.staticFields⟩
  | method ms t x ps b =>
    simp only [ofMember, worded_mul, worded_braces] at h
    obtain ⟨⟨⟨-, hname⟩, -⟩, hb⟩ := h
    refine ⟨List.forall_mem_append.mpr ⟨hp.methods, List.forall_mem_singleton.mpr ⟨?_, ?_⟩⟩,
      hp.constructor, hp.instanceFields, hp.staticFields⟩
    · exact isWord_ident.mpr (worded_name hname)
    · exact setsWords_blockCode.mpr (setsWords_bodyCode hs n hb)
  | constructor ms x ps b =>
    simp only [ofMember, worded_mul, worded_braces] at h
    by_cases hsome : p.constructor?.isSome
    · simp only [memberCodeOf, hsome, if_true]
      exact hp
    · simp only [memberCodeOf, hsome, Bool.false_eq_true, if_false]
      refine ⟨hp.methods, fun r hr => ?_, hp.instanceFields, hp.staticFields⟩
      obtain rfl := Option.mem_some_iff.mp hr
      exact setsWords_blockCode.mpr (setsWords_bodyCode hs n h.2)

theorem membersCode_namedByWords {names : ClassNames} (hs : MembersWords names) {p : Pieces}
    (hp : p.NamedByWords) (n : Nat) {ms : List Member} (h : ∀ m ∈ ms, Worded (ofMember m)) :
    (membersCode names p n ms).1.NamedByWords := by
  induction ms generalizing p n with
  | nil => exact hp
  | cons m ms ih =>
    obtain ⟨hm, hms⟩ := List.forall_mem_cons.mp h
    exact ih (memberCodeOf_namedByWords hs hp n hm) _ hms

theorem TrimsTo.setsWords {body trimmed : List Code.Stmt} (h : TrimsTo body trimmed)
    (hbody : SetsWords body) : SetsWords trimmed := by
  cases h with
  | whole => exact hbody
  | dropped h => exact (setsWords_append.mp (h ▸ hbody)).1

/-- The initialiser is called by a word, and it assigns what the fields and the constructor do. -/
theorem initCode_namedByWords {p : Pieces} (hp : p.NamedByWords) (hasBase : Bool) :
    ∀ f ∈ initCode hasBase p, IsWord f.name ∧ SetsWords f.body := by
  have hinit : IsWord initName := by decide +kernel
  unfold initCode
  split
  · exact List.forall_mem_nil _
  · refine List.forall_mem_singleton.mpr ⟨hinit, ?_⟩
    have hlines : SetsWords ((if hasBase then [baseInit] else []) ++ p.instanceFields) := by
      refine setsWords_append.mpr ⟨?_, hp.instanceFields⟩
      cases hasBase <;> exact List.forall_mem_nil _
    have hbody : SetsWords (p.constructor?.getD ([], [.pass])).2 := by
      cases hc : p.constructor? with
      | none => exact List.forall_mem_nil _
      | some r => exact hp.constructor r hc
    exact (trimsTo_body _ _).setsWords (setsWords_append.mpr ⟨hlines, hbody⟩)

theorem memberName?_isWord {m : Member} (h : Worded (ofMember m)) :
    ∀ y ∈ memberName? m, IsWord y.1 := by
  rintro y hy
  cases m with
  | field ms d =>
    cases hy
    simp only [ofMember, ofDeclaration, worded_mul] at h
    exact worded_name h.1.2.1.2
  | method ms t x ps b =>
    cases hy
    simp only [ofMember, worded_mul] at h
    exact worded_name h.1.1.2
  | constructor => cases hy

/-- The code of a worded class is named by words. -/
theorem namedByWords_classCode {c : ClassDecl} (h : Worded (ofClass c)) (n : Nat) :
    NamedByWords (classCode c n).1 := by
  simp only [ofClass, ofHead, worded_mul, worded_braces] at h
  obtain ⟨⟨⟨-, hname⟩, -⟩, hmembers⟩ := h
  have hmembers : ∀ m ∈ c.members, Worded (ofMember m) := fun m hm =>
    worded_prod.mp hmembers _ (List.mem_map_of_mem hm)
  have hs : MembersWords (ClassNames.of c) := by
    constructor
    · intro x hx
      obtain ⟨m, hm, hx⟩ := mem_statics_iff.mp hx
      exact memberName?_isWord (hmembers m hm) _ hx
    · intro x hx
      obtain ⟨m, hm, hx⟩ := mem_instances_iff.mp hx
      exact memberName?_isWord (hmembers m hm) _ hx
  have hp := membersCode_namedByWords hs (p := ⟨[], none, [], []⟩)
    ⟨List.forall_mem_nil _, fun _ h => absurd h (Option.not_mem_none _), List.forall_mem_nil _,
      List.forall_mem_nil _⟩ n hmembers
  exact ⟨isWord_ident.mpr (worded_name hname),
    List.forall_mem_append.mpr ⟨hp.methods, initCode_namedByWords hp _⟩, hp.staticFields⟩

end BraceScript.Lowering
