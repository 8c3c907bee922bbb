import BraceScript.Proofs.Lowering.Renaming
import BraceScript.Proofs.Code.Indentation
import BraceScript.Proofs.Syntax.InOrder

/-!
# Expressions on one line

A token that is kept in a tree is a line of its own: it begins with no blank, ends in no colon, and
no line ends in it (`oneLine_of_mem_tokens`). So is the code of every expression of a tree whose
tokens are (`oneLine_codeOf`).
-/

namespace BraceScript.Syntax

open Code (OneLine)

/-! ## Tokens -/

/-- A text of characters that are no blanks, colons or line ends. -/
theorem oneLine_of_forall {cs : List Char} (hne : cs ≠ [])
    (h : ∀ c ∈ cs, c ≠ ' ' ∧ c ≠ ':' ∧ c ≠ '\n' ∧ c ≠ '\r') : OneLine (String.ofList cs) := by
  refine ⟨⟨?_, ?_⟩, ?_, ?_⟩
  · rw [String.toList_ofList]
    exact fun hc => (h _ hc).2.2.1 rfl
  · rw [String.toList_ofList]
    exact fun hc => (h _ hc).2.2.2 rfl
  · refine ⟨cs.head hne, ?_, (h _ (List.head_mem hne)).1⟩
    rw [String.toList_ofList]
    exact List.head?_eq_some_head hne
  · refine ⟨cs.getLast hne, ?_, (h _ (List.getLast_mem hne)).2.1⟩
    rw [String.toList_ofList]
    exact List.getLast?_eq_some_getLast hne

/-- A text between quotes on one line. -/
theorem oneLine_of_quoted {quote : Char} {cs : List Char} (hq : quote ≠ ' ') (hq' : quote ≠ ':')
    (hfeed : '\n' ∉ quote :: cs) (hreturn : '\r' ∉ quote :: cs) (hend : cs.getLast? = some quote) :
    OneLine (String.ofList (quote :: cs)) := by
  refine ⟨⟨?_, ?_⟩, ⟨quote, ?_, hq⟩, ⟨quote, ?_, hq'⟩⟩
  · rwa [String.toList_ofList]
  · rwa [String.toList_ofList]
  · rw [String.toList_ofList]
    rfl
  · rw [String.toList_ofList, List.getLast?_cons, hend]
    rfl

theorem mem_numberRest {cs : List Char} {c : Char} (h : c ∈ cs.take (numberRest cs)) :
    Text.isDigit c ∨ c = '.' := by
  have hdigits {l : List Char} (hc : c ∈ l.takeWhile Text.isDigit) : Text.isDigit c :=
    List.mem_takeWhile_imp hc
  have honly (h : c ∈ cs.take (cs.takeWhile Text.isDigit).length) : Text.isDigit c ∨ c = '.' := by
    rw [take_length_takeWhile] at h
    exact .inl (hdigits h)
  unfold numberRest at h
  simp only at h
  split at h
  · next d rest hrest =>
    split at h
    · next hd =>
      have hsplit : cs = cs.takeWhile Text.isDigit ++ '.' :: d :: rest := by
        rw [← hrest, drop_length_takeWhile, List.takeWhile_append_dropWhile]
      generalize hwhole : cs.takeWhile Text.isDigit = whole at hsplit h
      rw [hsplit] at h
      rw [Nat.add_assoc, List.take_length_add_append, Nat.add_comm 2, List.take_succ_cons,
        List.take_succ_cons, take_length_takeWhile, List.mem_append, List.mem_cons,
        List.mem_cons] at h
      rcases h with h | h | rfl | h
      · rw [← hwhole] at h
        exact .inl (hdigits h)
      · exact .inr h
      · exact .inl hd
      · exact .inl (hdigits h)
    · exact honly h
  · exact honly h

theorem stringRest_quoted {cs : List Char} {n : Nat} (h : stringRest cs = some n) :
    '\n' ∉ cs.take n ∧ (cs.take n).getLast? = some '"' := by
  fun_induction stringRest cs generalizing n with
  | case1 => cases h
  | case2 cs =>
    cases h
    exact ⟨by simp, rfl⟩
  | case3 => cases h
  | case4 => cases h
  | case5 c cs hne ih =>
    obtain ⟨m, hm, rfl⟩ := Option.map_eq_some_iff.mp h
    obtain ⟨hfeed, hlast⟩ := ih hm
    have hc : c ≠ '\n' := hne
    rw [List.take_succ_cons, List.take_succ_cons, List.getLast?_cons, List.getLast?_cons, hlast]
    exact ⟨by simp [hfeed, hc.symm], rfl⟩
  | case6 => cases h
  | case7 c cs hquote hfeed h3 h4 h5 ih =>
    obtain ⟨m, hm, rfl⟩ := Option.map_eq_some_iff.mp h
    obtain ⟨hbreak, hlast⟩ := ih hm
    have hc : c ≠ '\n' := hfeed
    rw [List.take_succ_cons, List.getLast?_cons, hlast]
    exact ⟨by simp [hbreak, hc.symm], rfl⟩

theorem charRest_quoted {cs : List Char} {n : Nat} (h : charRest cs = some n) :
    '\n' ∉ cs.take n ∧ (cs.take n).getLast? = some '\'' := by
  unfold charRest at h
  split at h
  · split at h <;> cases h
    next c rest hc =>
    exact ⟨by simp [Ne.symm hc], rfl⟩
  · split at h <;> cases h
    next c rest _ hc =>
    simp only [Bool.or_eq_true, decide_eq_true_eq, not_or] at hc
    exact ⟨by simp [Ne.symm hc.2], rfl⟩
  · cases h

/-- A text of characters of a class, if blanks, colons and line ends are not in it. -/
theorem oneLine_of_class {p : Char → Bool}
    (hp : p ' ' = false ∧ p ':' = false ∧ p '\n' = false ∧ p '\r' = false)
    {cs : List Char} (hne : cs ≠ []) (h : ∀ c ∈ cs, p c = true) : OneLine (String.ofList cs) := by
  have hother {c d : Char} (hc : c ∈ cs) (hd : p d = false) : c ≠ d := by
    rintro rfl
    exact Bool.false_ne_true (hd.symm.trans (h c hc))
  exact oneLine_of_forall hne fun c hc =>
    ⟨hother hc hp.1, hother hc hp.2.1, hother hc hp.2.2.1, hother hc hp.2.2.2⟩

/-- Names, numbers, strings and characters are lines of their own, and so are words. -/
theorem oneLine_of_pieceAt {c : Char} {cs : List Char} {k : Kind} {n : Nat}
    (h : pieceAt c cs = .token k n) (hk : ∀ s, k ≠ .sign s) (hreturn : '\r' ∉ c :: cs) :
    OneLine (String.ofList (c :: cs.take n)) := by
  have hkept : '\r' ∉ c :: cs.take n := by
    rw [List.mem_cons, not_or] at hreturn ⊢
    exact ⟨hreturn.1, fun hc => hreturn.2 (List.mem_of_mem_take hc)⟩
  have hsign (d : Char) (ds : List Char) : signPiece d ds ≠ .token k n := by
    intro hpiece
    unfold signPiece at hpiece
    split at hpiece <;> cases hpiece
    exact hk _ rfl
  unfold pieceAt at h
  split at h
  · cases h
  split at h
  · next hstart =>
    cases h
    refine oneLine_of_class (p := isNameRest) (by decide) (by simp) ?_
    intro d hd
    rw [take_length_takeWhile] at hd
    rcases List.mem_cons.mp hd with rfl | hd
    · unfold isNameStart at hstart
      unfold isNameRest Char.isAlphanum
      grind
    · exact List.mem_takeWhile_imp hd
  split at h
  · next hdigit =>
    cases h
    refine oneLine_of_class (p := fun d => Text.isDigit d || d == '.')
      ⟨by decide, by decide, by decide, by decide⟩ (by simp) ?_
    intro d hd
    rcases List.mem_cons.mp hd with rfl | hd
    · simp [hdigit]
    · simpa using mem_numberRest hd
  split at h
  · split at h <;> cases h
    next hrest =>
    obtain ⟨hfeed, hend⟩ := stringRest_quoted hrest
    exact oneLine_of_quoted (by decide) (by decide) (by simpa using hfeed) hkept hend
  · split at h <;> cases h
    next hrest =>
    obtain ⟨hfeed, hend⟩ := charRest_quoted hrest
    exact oneLine_of_quoted (by decide) (by decide) (by simpa using hfeed) hkept hend
  · cases h
  · split at h
    · cases h
    · exact absurd h (hsign _ _)
  · exact absurd h (hsign _ _)

/-- The tokens of a tree are lines of their own, if only line feeds end lines. -/
theorem oneLine_of_mem_tokens {source : List Char} {f : SourceFile} (h : parse source = .ok f)
    (hreturn : '\r' ∉ source) : ∀ t ∈ (Outline.ofFile f).tokens, OneLine t.text := by
  intro t ht
  rw [tokens_ofFile h, List.mem_filter] at ht
  obtain ⟨before, c, rest, n, hsource, -, hpiece, htext⟩ := scan_pieces ht.1
  have hkind (s : Sign) : t.kind ≠ .sign s := by
    intro hs
    rw [hs] at ht
    exact Bool.false_ne_true ht.2
  rw [htext]
  refine oneLine_of_pieceAt hpiece hkind fun hc => hreturn ?_
  rw [hsource]
  exact List.mem_append_right _ hc

end BraceScript.Syntax

/-! ## Printed expressions -/

namespace BraceScript.Code

theorem Unbroken.intercalate {sep : String} (hsep : Unbroken sep) {ts : List String}
    (hts : ∀ t ∈ ts, Unbroken t) : Unbroken (sep.intercalate ts) := by
  induction ts with
  | nil =>
    rw [String.intercalate_nil]
    decide
  | cons t ts ih =>
    obtain ⟨ht, hrest⟩ := List.forall_mem_cons.mp hts
    cases ts with
    | nil => rwa [String.intercalate_singleton]
    | cons u us =>
      rw [String.intercalate_cons_cons]
      exact (ht.append hsep).append (ih hrest)

namespace Expr

/-- A trailer stands behind an expression, bare product or not. -/
theorem print_trail {f : Expr → Expr} (trailer : String)
    (hf : ∀ e, (f e).print = e.print ++ trailer) (e : Expr) :
    (e.trail f).print = e.print ++ trailer := by
  fun_induction trail f e with
  | case1 l r ih => simp only [print, ih, String.append_assoc]
  | case2 e _ => exact hf e

theorem print_withAttr (x : String) (e : Expr) : (e.withAttr x).print = e.print ++ ("." ++ x) := by
  rw [← String.append_assoc]
  unfold withAttr
  split
  · split <;> rfl
  · rfl

theorem print_times (l r : Expr) :
    (l.times r).print = l.print ++ " " ++ BinaryOp.mul.text ++ " " ++ r.print := by
  fun_induction times l r with
  | case1 a b ih => simp only [print, ih, String.append_assoc]
  | case2 r _ => rfl

theorem print_negated (e : Expr) : e.negated.print = UnaryOp.neg.text ++ e.print := by
  fun_induction negated e with
  | case1 a b ih => simp only [print, ih, String.append_assoc]
  | case2 e _ => rfl

end Expr

end BraceScript.Code

/-! ## Expressions of scripts -/

namespace BraceScript.Lowering

open Syntax
open Code (OneLine Unbroken Opens Closes)

/-- Tokens that are lines of their own. -/
def Texts (ts : List Token) : Prop := ∀ t ∈ ts, OneLine t.text

@[simp]
theorem texts_nil : Texts [] := fun _ h => nomatch h

@[simp]
theorem texts_cons {t : Token} {ts : List Token} : Texts (t :: ts) ↔ OneLine t.text ∧ Texts ts :=
  List.forall_mem_cons

@[simp]
theorem texts_append {ts us : List Token} : Texts (ts ++ us) ↔ Texts ts ∧ Texts us :=
  List.forall_mem_append

theorem oneLine_ident {x : String} (hx : OneLine x) : OneLine (Code.ident x) := by
  unfold Code.ident
  split
  · exact ⟨hx.unbroken.append (by decide), hx.opens.append _, Closes.append (by decide) _⟩
  · exact hx

/-- A text that stands between brackets of its own. -/
theorem oneLine_between {front behind t : String} (hfront : Unbroken front) (hopens : Opens front)
    (ht : Unbroken t) (hbehind : Unbroken behind) (hcloses : Closes behind) :
    OneLine (front ++ t ++ behind) :=
  ⟨(hfront.append ht).append hbehind, (hopens.append _).append _, hcloses.append _⟩

/-- A trailer behind a line of its own. -/
theorem oneLine_trailer {t trailer : String} (ht : OneLine t) (hu : Unbroken trailer)
    (hc : Closes trailer) : OneLine (t ++ trailer) :=
  ⟨ht.unbroken.append hu, ht.opens.append _, hc.append _⟩

theorem oneLine_group {e : Code.Expr} (h : Unbroken e.print) : OneLine (Code.Expr.group e).print :=
  oneLine_between (by decide) (by decide) h (by decide) (by decide)

theorem unbroken_joined {ts : List String} (hts : ∀ t ∈ ts, OneLine t) :
    Unbroken (", ".intercalate ts) :=
  .intercalate (by decide) fun t ht => (hts t ht).unbroken

theorem oneLine_call {f : String} {es : List Code.Expr} (hf : OneLine f)
    (hes : ∀ t ∈ Code.Expr.printAll es, OneLine t) : OneLine (Code.Expr.apply f es).print :=
  oneLine_between (hf.unbroken.append (by decide)) (hf.opens.append _) (unbroken_joined hes)
    (by decide) (by decide)

theorem unbroken_binary {op : Code.BinaryOp} {l r : String} (hl : Unbroken l) (hr : Unbroken r) :
    Unbroken (l ++ " " ++ op.text ++ " " ++ r) := by
  have hop : Unbroken op.text := by cases op <;> decide
  exact (((hl.append (by decide)).append hop).append (by decide)).append hr

theorem oneLine_defaultValue (type : String) (rank : Nat) :
    OneLine (defaultValue type rank).print := by
  have hvalues : ∀ p ∈ defaultValues, OneLine p.2.print := by
    simp only [defaultValues, List.forall_mem_cons, Code.Expr.print]
    decide
  unfold defaultValue
  split
  · decide
  · cases h : defaultValues.lookup type with
    | none => decide
    | some e =>
      obtain ⟨front, back, hsplit, -⟩ := List.lookup_eq_some_iff.mp h
      exact hvalues (type, e) (by rw [hsplit]; simp)

theorem oneLine_digits (n : Nat) : OneLine (toString n) := by
  have htext : (toString n).toList = Nat.toDigits 10 n := Nat.toList_repr
  rw [← String.ofList_toList (s := toString n), htext]
  exact oneLine_of_class ⟨by decide, by decide, by decide, by decide⟩ Nat.toDigits_ne_nil
    fun c hc => Nat.isDigit_of_mem_toDigits (by decide) (by decide) hc

theorem oneLine_numberText {t : String} (h : OneLine t) : OneLine (numberText t) := by
  unfold numberText
  split
  · exact h
  · exact oneLine_digits _

/-! ### Operators -/

theorem oneLine_unaryCode (op : UnaryOp) {e : Code.Expr} (h : OneLine e.print) :
    OneLine (unaryCode op e).print := by
  cases op with
  | not => exact oneLine_group (Unbroken.append (by decide) h.unbroken)
  | neg =>
    refine oneLine_group ?_
    rw [Code.Expr.print_negated]
    exact Unbroken.append (by decide) h.unbroken

theorem oneLine_binaryCode (op : BinaryOp) {l r : Code.Expr} (hl : OneLine l.print)
    (hr : OneLine r.print) : OneLine (binaryCode op l r).print := by
  have hcall {f : String} (hf : OneLine f) : OneLine (Code.Expr.apply f [l, r]).print :=
    oneLine_call hf (by simp [Code.Expr.printAll, hl, hr])
  have hgroup (op : Code.BinaryOp) : OneLine (Code.Expr.grouped op l r).print :=
    oneLine_group (unbroken_binary hl.unbroken hr.unbroken)
  cases op with
  | add | div | mod => exact hcall (by decide)
  | mul =>
    refine oneLine_group ?_
    rw [Code.Expr.print_times]
    exact unbroken_binary hl.unbroken hr.unbroken
  | or | and | eq | ne | lt | le | gt | ge | sub => exact hgroup _

/-! ### Names and trailers -/

variable {s : Scope}

theorem oneLine_scopeCode (hs : OneLine s.names.type) {x : String} (hx : OneLine x) :
    OneLine (s.codeOf x).print := by
  have hident := oneLine_ident hx
  have hglobal : OneLine (Scope.globalIdent x) := by
    unfold Scope.globalIdent
    split
    · decide
    · exact hident
  unfold Scope.codeOf
  split
  · split
    · exact hident
    · exact (oneLine_ident hs).join "." (by decide) hident
  · exact OneLine.join (by decide) "." (by decide) hident
  · exact hglobal
  · exact hglobal

theorem oneLine_memberCode {e : Code.Expr} {x : String} (he : OneLine e.print) (hx : OneLine x) :
    OneLine (memberCode e x).print := by
  have hname := oneLine_ident hx
  unfold memberCode
  split
  · exact oneLine_call (by decide) (by simp [Code.Expr.printAll, he])
  · rw [Code.Expr.print_trail _ (Code.Expr.print_withAttr _)]
    exact oneLine_trailer he (Unbroken.append (by decide) hname.unbroken) (hname.closes.append _)

theorem oneLine_index {e i : Code.Expr} (he : OneLine e.print) (hi : OneLine i.print) :
    OneLine (e.trail (.index · i)).print := by
  have hplace : Unbroken ("[" ++ i.print ++ "]") :=
    (Unbroken.append (by decide) hi.unbroken).append (by decide)
  have hprint (e : Code.Expr) : (e.index i).print = e.print ++ ("[" ++ i.print ++ "]") := by
    simp only [Code.Expr.print, String.append_assoc]
  rw [Code.Expr.print_trail _ hprint]
  exact oneLine_trailer he hplace (Closes.append (by decide) _)

theorem oneLine_callCode {text : Option Code.Expr} {callee : Code.Expr} {as : List Code.Expr}
    (htext : ∀ e ∈ text, OneLine e.print) (hcallee : OneLine callee.print)
    (has : ∀ t ∈ Code.Expr.printAll as, OneLine t) : OneLine (callCode text callee as).print := by
  have hcall : OneLine (callee.trail (.call · as)).print := by
    have hbrackets : Unbroken ("(" ++ ", ".intercalate (Code.Expr.printAll as) ++ ")") :=
      (Unbroken.append (by decide) (unbroken_joined has)).append (by decide)
    have hprint (e : Code.Expr) : (e.call as).print
        = e.print ++ ("(" ++ ", ".intercalate (Code.Expr.printAll as) ++ ")") := by
      simp only [Code.Expr.print, String.append_assoc]
    rw [Code.Expr.print_trail _ hprint]
    exact oneLine_trailer hcallee hbrackets (Closes.append (by decide) _)
  unfold callCode
  split
  · next e => exact oneLine_call (by decide) (by simpa [Code.Expr.printAll] using htext)
  · exact hcall

/-! ### Whole expressions -/

theorem tokens_call (f : Expr) (as : List Expr) : (Outline.ofExpr (.call f as)).tokens
    = (Outline.ofExpr f).tokens ++ Outline.allTokens (Outline.ofExprs as) := by
  cases as <;> simp [Outline.ofExpr, Outline.ofExprs, Outline.tokens, Outline.allTokens]

theorem tokens_newObject (t : Token) (as : List Expr) :
    (Outline.ofExpr (.newObject t as)).tokens
      = t :: Outline.allTokens (Outline.ofExprs as) := by
  cases as <;> simp [Outline.ofExpr, Outline.ofExprs, Outline.tokens, Outline.allTokens]

theorem tokens_elements (t : Token) (es : List Expr) :
    (Outline.ofExpr (.elements t es)).tokens = t :: Outline.allTokens (Outline.ofExprs es) := by
  cases es <;> simp [Outline.ofExpr, Outline.ofExprs, Outline.tokens, Outline.allTokens]

mutual

/-- The code of an expression is a line of its own if its tokens are. -/
theorem oneLine_codeOf (hs : OneLine s.names.type) : ∀ e : Expr,
    Texts (Outline.ofExpr e).tokens → OneLine (codeOf s e).print
  | .number t, h => by
    simp only [Outline.ofExpr, Outline.tokens, Outline.allTokens, List.append_nil, texts_cons] at h
    exact oneLine_numberText h.1
  | .string t, h | .char t, h => by
    simp only [Outline.ofExpr, Outline.tokens, Outline.allTokens, List.append_nil, texts_cons] at h
    exact h.1
  | .true, _ | .false, _ | .null, _ | .this, _ => by
    simp only [codeOf, Code.Expr.print]
    decide
  | .name t, h => by
    simp only [Outline.ofExpr, Outline.tokens, Outline.allTokens, List.append_nil, texts_cons] at h
    exact oneLine_scopeCode hs h.1
  | .group e, h => by
    rw [Outline.ofExpr] at h
    exact oneLine_codeOf hs e h
  | .member e x, h => by
    simp only [Outline.ofExpr, Outline.tokens, Outline.allTokens, List.append_nil, texts_append,
      texts_cons] at h
    exact oneLine_memberCode (oneLine_codeOf hs e h.1) h.2.1
  | .call f as, h => by
    rw [tokens_call, texts_append] at h
    exact oneLine_callCode (oneLine_textCode hs f h.1) (oneLine_codeOf hs f h.1)
      (oneLine_codesOf hs as h.2)
  | .index e i, h => by
    simp only [Outline.ofExpr, Outline.tokens, Outline.allTokens, List.append_nil,
      texts_append] at h
    exact oneLine_index (oneLine_codeOf hs e h.1) (oneLine_codeOf hs i h.2)
  | .unary op e, h => by
    simp only [Outline.ofExpr, Outline.tokens, Outline.allTokens, List.append_nil] at h
    exact oneLine_unaryCode op (oneLine_codeOf hs e h)
  | .binary op l r, h => by
    simp only [Outline.ofExpr, Outline.tokens, Outline.allTokens, List.append_nil,
      texts_append] at h
    exact oneLine_binaryCode op (oneLine_codeOf hs l h.1) (oneLine_codeOf hs r h.2)
  | .choice c a b, h => by
    simp only [Outline.ofExpr, Outline.tokens, Outline.allTokens, List.append_nil,
      texts_append] at h
    obtain ⟨hc, ha, hb⟩ := h
    refine oneLine_group ?_
    exact ((((oneLine_codeOf hs a ha).unbroken.append (by decide)).append
      (oneLine_codeOf hs c hc).unbroken).append (by decide)).append (oneLine_codeOf hs b hb).unbroken
  | .newObject t as, h => by
    rw [tokens_newObject, texts_cons] at h
    exact oneLine_call (oneLine_ident h.1) (oneLine_codesOf hs as h.2)
  | .newArray t n, h => by
    simp only [Outline.ofExpr, Outline.tokens, Outline.allTokens, List.append_nil, texts_append,
      texts_cons] at h
    have hitem : OneLine (Code.Expr.list [defaultValue t.text 0]).print :=
      oneLine_between (by decide) (by decide)
        (unbroken_joined (by simp [Code.Expr.printAll, oneLine_defaultValue])) (by decide)
        (by decide)
    have hsize := oneLine_group (oneLine_codeOf hs n h.2).unbroken
    exact ⟨unbroken_binary hitem.unbroken hsize.unbroken,
      (((hitem.opens.append _).append _).append _).append _, hsize.closes.append _⟩
  | .elements t es, h => by
    rw [tokens_elements, texts_cons] at h
    exact oneLine_between (by decide) (by decide)
      (unbroken_joined (oneLine_codesOf hs es h.2)) (by decide) (by decide)

theorem oneLine_codesOf (hs : OneLine s.names.type) : ∀ es : List Expr,
    Texts (Outline.allTokens (Outline.ofExprs es)) →
      ∀ t ∈ Code.Expr.printAll (codesOf s es), OneLine t
  | [], _, t, ht => by
    rw [codesOf, Code.Expr.printAll] at ht
    cases ht
  | e :: es, h, t, ht => by
    rw [Outline.ofExprs, Outline.allTokens, texts_append] at h
    rw [codesOf, Code.Expr.printAll, List.mem_cons] at ht
    rcases ht with rfl | ht
    · exact oneLine_codeOf hs e h.1
    · exact oneLine_codesOf hs es h.2 t ht

theorem oneLine_textCode (hs : OneLine s.names.type) : ∀ e : Expr,
    Texts (Outline.ofExpr e).tokens → ∀ c ∈ textCode s e, OneLine c.print
  | .group e, h, c, hc => by
    rw [Outline.ofExpr] at h
    rw [textCode] at hc
    exact oneLine_textCode hs e h c hc
  | .member e x, h, c, hc => by
    simp only [Outline.ofExpr, Outline.tokens, Outline.allTokens, List.append_nil,
      texts_append] at h
    rw [textCode] at hc
    split at hc
    · cases hc
      exact oneLine_codeOf hs e h.1
    · cases hc
  | .number _, _, _, hc | .string _, _, _, hc | .char _, _, _, hc | .true, _, _, hc
  | .false, _, _, hc | .null, _, _, hc | .this, _, _, hc | .name _, _, _, hc
  | .call _ _, _, _, hc | .index _ _, _, _, hc | .unary _ _, _, _, hc | .binary _ _ _, _, _, hc
  | .choice _ _ _, _, _, hc | .newObject _ _, _, _, hc | .newArray _ _, _, _, hc
  | .elements _ _, _, _, hc => nomatch hc

end

end BraceScript.Lowering
