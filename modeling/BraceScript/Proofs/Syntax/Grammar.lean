import BraceScript.Syntax.Outline
import Mathlib

/-!
# The grammar of scripts

The grammar is data: `Rule.alternatives` lists what a rule can be. A derivation from it gives
tokens and their outlines (`Derives`). Quoted texts leave nothing in an outline and named tokens a
leaf; an optional part in brackets that is absent leaves a gap for everything it would have left.
An alternative with a label is a node under this label. Without one it is a node under the name of
its rule, except that a rule marked as inlined leaves a single part as it is.

`Derives.shaped` is the induction over derivations: what every alternative of every rule passes on
from its parts to the rule holds of all derivations.
-/

namespace BraceScript.Syntax.Grammar

/-! ## Rules -/

/-- The rules of the grammar. -/
inductive Rule
  | start | usingDirective | qualifiedName | typeDecl | baseClause | modifiers
  | member | fieldDecl | methodDecl | ctorDecl | params | param | typeRef | arrayRank
  | block | statement | localDecl | declaration | assignStmt | assignment | incdecStmt | incdec
  | lvalue | ifStmt | elseClause | whileStmt | forStmt | forInit | forStep | foreachStmt
  | returnStmt | breakStmt | continueStmt | throwStmt | tryStmt | catchClause | catchFilter
  | finallyClause | exprStmt
  | expr | conditional | orExpr | andExpr | equality | comparison | additive | multiplicative
  | unary | postfixed | primary | arguments
  deriving DecidableEq, Repr

/-- The name of a rule, under which its nodes stand. -/
def Rule.title : Rule → String
  | .start => "start"
  | .usingDirective => "using_directive"
  | .qualifiedName => "qualified_name"
  | .typeDecl => "type_decl"
  | .baseClause => "base_clause"
  | .modifiers => "modifiers"
  | .member => "member"
  | .fieldDecl => "field_decl"
  | .methodDecl => "method_decl"
  | .ctorDecl => "ctor_decl"
  | .params => "params"
  | .param => "param"
  | .typeRef => "type_ref"
  | .arrayRank => "array_rank"
  | .block => "block"
  | .statement => "statement"
  | .localDecl => "local_decl"
  | .declaration => "declaration"
  | .assignStmt => "assign_stmt"
  | .assignment => "assignment"
  | .incdecStmt => "incdec_stmt"
  | .incdec => "incdec"
  | .lvalue => "lvalue"
  | .ifStmt => "if_stmt"
  | .elseClause => "else_clause"
  | .whileStmt => "while_stmt"
  | .forStmt => "for_stmt"
  | .forInit => "for_init"
  | .forStep => "for_step"
  | .foreachStmt => "foreach_stmt"
  | .returnStmt => "return_stmt"
  | .breakStmt => "break_stmt"
  | .continueStmt => "continue_stmt"
  | .throwStmt => "throw_stmt"
  | .tryStmt => "try_stmt"
  | .catchClause => "catch_clause"
  | .catchFilter => "catch_filter"
  | .finallyClause => "finally_clause"
  | .exprStmt => "expr_stmt"
  | .expr => "expr"
  | .conditional => "conditional"
  | .orExpr => "or_expr"
  | .andExpr => "and_expr"
  | .equality => "equality"
  | .comparison => "comparison"
  | .additive => "additive"
  | .multiplicative => "multiplicative"
  | .unary => "unary"
  | .postfixed => "postfix"
  | .primary => "primary"
  | .arguments => "arguments"

/-- Whether a rule leaves a single part as it is. -/
def Rule.isInlined : Rule → Bool
  | .member | .statement | .assignment | .incdec | .lvalue | .forInit | .forStep | .expr
  | .conditional | .orExpr | .andExpr | .equality | .comparison | .additive | .multiplicative
  | .unary | .postfixed | .primary => true
  | _ => false

/-- A part of an alternative. -/
inductive Part
  /-- A quoted text. -/
  | drop (kind : Kind)
  /-- A named token, of one of several kinds. -/
  | keep (kinds : List Kind)
  | rule (r : Rule)
  /-- Parts in brackets, which can be absent. -/
  | maybe (parts : List Part)
  /-- Parts any number of times. -/
  | many (parts : List Part)

/-- An alternative of a rule. -/
structure Alternative where
  label : Option String
  parts : List Part

/-- A keyword. -/
def word (k : Keyword) : Part := .drop (.word k)

/-- A sign. -/
def sign (s : Sign) : Part := .drop (.sign s)

/-- A name. -/
def name : Part := .keep [.name]

/-- An alternative without a label. -/
def plain (parts : List Part) : Alternative := ⟨none, parts⟩

/-- An alternative under a label. -/
def under (label : String) (parts : List Part) : Alternative := ⟨some label, parts⟩

/-- The kinds of modifiers. -/
def modifierKinds : List Kind :=
  [.word .kwPublic, .word .kwPrivate, .word .kwProtected, .word .kwInternal, .word .kwStatic]

/-- An operand, a sign and an operand. -/
def infixed (label : String) (left : Rule) (s : Sign) (right : Rule) : Alternative :=
  under label [.rule left, sign s, .rule right]

/-- The alternatives of every rule. -/
def Rule.alternatives : Rule → List Alternative
  | .start => [plain [.many [.rule .usingDirective], .many [.rule .typeDecl]]]
  -- files and classes
  | .usingDirective => [plain [word .kwUsing, .rule .qualifiedName, sign .semicolon]]
  | .qualifiedName => [plain [name, .many [sign .dot, name]]]
  | .typeDecl => [plain [.rule .modifiers, word .kwClass, name, .maybe [.rule .baseClause],
      sign .openBrace, .many [.rule .member], sign .closeBrace]]
  | .baseClause => [plain [sign .colon, name]]
  | .modifiers => [plain [.many [.keep modifierKinds]]]
  -- members
  | .member => [plain [.rule .fieldDecl], plain [.rule .methodDecl], plain [.rule .ctorDecl]]
  | .fieldDecl => [plain [.rule .modifiers, .rule .typeRef, name,
      .maybe [sign .assign, .rule .expr], sign .semicolon]]
  | .methodDecl => [plain [.rule .modifiers, .rule .typeRef, name, sign .openParen,
      .maybe [.rule .params], sign .closeParen, .rule .block]]
  | .ctorDecl => [plain [.rule .modifiers, name, sign .openParen, .maybe [.rule .params],
      sign .closeParen, .rule .block]]
  | .params => [plain [.rule .param, .many [sign .comma, .rule .param]]]
  | .param => [plain [.rule .typeRef, name]]
  | .typeRef => [plain [name, .many [.rule .arrayRank]]]
  | .arrayRank => [plain [sign .openBracket, sign .closeBracket]]
  -- statements
  | .block => [plain [sign .openBrace, .many [.rule .statement], sign .closeBrace]]
  | .statement => [plain [.rule .localDecl], plain [.rule .assignStmt], plain [.rule .incdecStmt],
      plain [.rule .ifStmt], plain [.rule .whileStmt], plain [.rule .forStmt],
      plain [.rule .foreachStmt], plain [.rule .returnStmt], plain [.rule .breakStmt],
      plain [.rule .continueStmt], plain [.rule .throwStmt], plain [.rule .tryStmt],
      plain [.rule .exprStmt], plain [.rule .block]]
  | .localDecl => [plain [.rule .declaration, sign .semicolon]]
  | .declaration => [plain [.rule .typeRef, name, .maybe [sign .assign, .rule .expr]]]
  | .assignStmt => [plain [.rule .assignment, sign .semicolon]]
  | .assignment => [infixed "assign" .lvalue .assign .expr,
      infixed "add_assign" .lvalue .plusAssign .expr,
      infixed "sub_assign" .lvalue .minusAssign .expr,
      infixed "mul_assign" .lvalue .timesAssign .expr,
      infixed "div_assign" .lvalue .overAssign .expr,
      infixed "mod_assign" .lvalue .modAssign .expr]
  | .incdecStmt => [plain [.rule .incdec, sign .semicolon]]
  | .incdec => [under "increment" [.rule .lvalue, sign .increment],
      under "decrement" [.rule .lvalue, sign .decrement]]
  | .lvalue => [under "name" [name], under "member" [.rule .postfixed, sign .dot, name],
      under "index" [.rule .postfixed, sign .openBracket, .rule .expr, sign .closeBracket]]
  | .ifStmt => [plain [word .kwIf, sign .openParen, .rule .expr, sign .closeParen, .rule .block,
      .maybe [.rule .elseClause]]]
  | .elseClause => [under "else_block" [word .kwElse, .rule .block],
      under "else_if" [word .kwElse, .rule .ifStmt]]
  | .whileStmt => [plain [word .kwWhile, sign .openParen, .rule .expr, sign .closeParen,
      .rule .block]]
  | .forStmt => [plain [word .kwFor, sign .openParen, .maybe [.rule .forInit], sign .semicolon,
      .maybe [.rule .expr], sign .semicolon, .maybe [.rule .forStep], sign .closeParen,
      .rule .block]]
  | .forInit => [plain [.rule .declaration], plain [.rule .assignment]]
  | .forStep => [plain [.rule .assignment], plain [.rule .incdec], plain [.rule .expr]]
  | .foreachStmt => [plain [word .kwForeach, sign .openParen, .rule .typeRef, name, word .kwIn,
      .rule .expr, sign .closeParen, .rule .block]]
  | .returnStmt => [plain [word .kwReturn, .maybe [.rule .expr], sign .semicolon]]
  | .breakStmt => [plain [word .kwBreak, sign .semicolon]]
  | .continueStmt => [plain [word .kwContinue, sign .semicolon]]
  | .throwStmt => [plain [word .kwThrow, .maybe [.rule .expr], sign .semicolon]]
  | .tryStmt => [plain [word .kwTry, .rule .block, .rule .catchClause,
      .many [.rule .catchClause], .maybe [.rule .finallyClause]],
      plain [word .kwTry, .rule .block, .rule .finallyClause]]
  | .catchClause => [plain [word .kwCatch, .maybe [.rule .catchFilter], .rule .block]]
  | .catchFilter => [plain [sign .openParen, name, .maybe [name], sign .closeParen]]
  | .finallyClause => [plain [word .kwFinally, .rule .block]]
  | .exprStmt => [plain [.rule .expr, sign .semicolon]]
  -- expressions
  | .expr => [plain [.rule .conditional]]
  | .conditional => [plain [.rule .orExpr],
      under "ternary" [.rule .orExpr, sign .question, .rule .expr, sign .colon,
        .rule .conditional]]
  | .orExpr => [plain [.rule .andExpr], infixed "or_op" .orExpr .orElse .andExpr]
  | .andExpr => [plain [.rule .equality], infixed "and_op" .andExpr .andAlso .equality]
  | .equality => [plain [.rule .comparison], infixed "eq" .equality .equal .comparison,
      infixed "ne" .equality .unequal .comparison]
  | .comparison => [plain [.rule .additive], infixed "lt" .comparison .less .additive,
      infixed "le" .comparison .atMost .additive, infixed "gt" .comparison .greater .additive,
      infixed "ge" .comparison .atLeast .additive]
  | .additive => [plain [.rule .multiplicative], infixed "add" .additive .plus .multiplicative,
      infixed "sub" .additive .minus .multiplicative]
  | .multiplicative => [plain [.rule .unary], infixed "mul" .multiplicative .times .unary,
      infixed "div" .multiplicative .over .unary, infixed "mod" .multiplicative .mod .unary]
  | .unary => [plain [.rule .postfixed], under "not_op" [sign .bang, .rule .unary],
      under "neg" [sign .minus, .rule .unary]]
  | .postfixed => [plain [.rule .primary], under "member" [.rule .postfixed, sign .dot, name],
      under "call" [.rule .postfixed, sign .openParen, .maybe [.rule .arguments],
        sign .closeParen],
      under "index" [.rule .postfixed, sign .openBracket, .rule .expr, sign .closeBracket]]
  | .primary => [under "number" [.keep [.number]], under "string" [.keep [.string]],
      under "char" [.keep [.char]], under "true" [word .kwTrue], under "false" [word .kwFalse],
      under "null" [word .kwNull], under "this" [word .kwThis], under "name" [name],
      plain [sign .openParen, .rule .expr, sign .closeParen],
      under "new_object" [word .kwNew, name, sign .openParen, .maybe [.rule .arguments],
        sign .closeParen],
      under "new_array" [word .kwNew, name, sign .openBracket, .rule .expr, sign .closeBracket],
      under "array_literal" [word .kwNew, name, .rule .arrayRank, sign .openBrace,
        .maybe [.rule .arguments], sign .closeBrace]]
  | .arguments => [plain [.rule .expr, .many [sign .comma, .rule .expr]]]

/-! ## Derivations -/

/-- What an alternative of a rule leaves, when its parts leave `os`. -/
def Alternative.result (a : Alternative) (r : Rule) (os : List Outline) : List Outline :=
  match a.label with
  | some l => [.node l os]
  | none => if r.isInlined && os.length == 1 then os else [.node r.title os]

/-- How many gaps a part leaves when it is absent. -/
def Part.gaps : Part → Nat
  | .keep _ | .rule _ => 1
  | .drop _ | .maybe _ | .many _ => 0

/-- The gaps of absent parts. -/
def gaps (ps : List Part) : List Outline := List.replicate (ps.map Part.gaps).sum .gap

/-- `Derives ps ts os`: the parts `ps` derive the tokens `ts` and leave the outlines `os`. -/
inductive Derives : List Part → List Token → List Outline → Prop
  | nil : Derives [] [] []
  | drop {k : Kind} {t : Token} {ps : List Part} {ts : List Token} {os : List Outline} :
    t.kind = k → Derives ps ts os → Derives (.drop k :: ps) (t :: ts) os
  | keep {ks : List Kind} {t : Token} {ps : List Part} {ts : List Token} {os : List Outline} :
    t.kind ∈ ks → Derives ps ts os → Derives (.keep ks :: ps) (t :: ts) (.leaf t :: os)
  | rule {r : Rule} {a : Alternative} {ps : List Part} {ts us : List Token}
    {os qs : List Outline} : a ∈ r.alternatives → Derives a.parts ts os → Derives ps us qs →
    Derives (.rule r :: ps) (ts ++ us) (a.result r os ++ qs)
  | absent {xs ps : List Part} {ts : List Token} {os : List Outline} :
    Derives ps ts os → Derives (.maybe xs :: ps) ts (gaps xs ++ os)
  | present {xs ps : List Part} {ts us : List Token} {os qs : List Outline} :
    Derives xs ts os → Derives ps us qs → Derives (.maybe xs :: ps) (ts ++ us) (os ++ qs)
  | stop {xs ps : List Part} {ts : List Token} {os : List Outline} :
    Derives ps ts os → Derives (.many xs :: ps) ts os
  | more {xs ps : List Part} {ts us : List Token} {os qs : List Outline} :
    Derives xs ts os → Derives (.many xs :: ps) us qs →
    Derives (.many xs :: ps) (ts ++ us) (os ++ qs)

/-! ## Induction over derivations -/

/-- A relation between tokens and outlines, any number of times in a row. -/
inductive Repeated (R : List Token → List Outline → Prop) : List Token → List Outline → Prop
  | nil : Repeated R [] []
  | cons {ts us : List Token} {os qs : List Outline} : R ts os → Repeated R us qs →
    Repeated R (ts ++ us) (os ++ qs)

/-- Parts as a relation between tokens and outlines, by a relation for every rule. -/
def Shaped (P : Rule → List Token → List Outline → Prop) :
    List Part → List Token → List Outline → Prop
  | [], ts, os => ts = [] ∧ os = []
  | .drop k :: ps, ts, os => ∃ t us, t.kind = k ∧ ts = t :: us ∧ Shaped P ps us os
  | .keep ks :: ps, ts, os => ∃ t us qs, t.kind ∈ ks ∧ ts = t :: us ∧ os = .leaf t :: qs
      ∧ Shaped P ps us qs
  | .rule r :: ps, ts, os => ∃ ts₁ ts₂ os₁ os₂, ts = ts₁ ++ ts₂ ∧ os = os₁ ++ os₂
      ∧ P r ts₁ os₁ ∧ Shaped P ps ts₂ os₂
  | .maybe xs :: ps, ts, os => ∃ ts₁ ts₂ os₁ os₂, ts = ts₁ ++ ts₂ ∧ os = os₁ ++ os₂
      ∧ ((ts₁ = [] ∧ os₁ = gaps xs) ∨ Shaped P xs ts₁ os₁) ∧ Shaped P ps ts₂ os₂
  | .many xs :: ps, ts, os => ∃ ts₁ ts₂ os₁ os₂, ts = ts₁ ++ ts₂ ∧ os = os₁ ++ os₂
      ∧ Repeated (Shaped P xs) ts₁ os₁ ∧ Shaped P ps ts₂ os₂

/-- What the parts of every alternative pass on to its rule holds of everything that is derived. -/
theorem Derives.shaped {P : Rule → List Token → List Outline → Prop}
    (hP : ∀ r, ∀ a ∈ r.alternatives, ∀ ts os, Shaped P a.parts ts os → P r ts (a.result r os))
    {ps : List Part} {ts : List Token} {os : List Outline} (h : Derives ps ts os) :
    Shaped P ps ts os := by
  induction h with
  | nil =>
    rw [Shaped]
    exact ⟨rfl, rfl⟩
  | drop hk _ ih =>
    rw [Shaped]
    exact ⟨_, _, hk, rfl, ih⟩
  | keep hk _ ih =>
    rw [Shaped]
    exact ⟨_, _, _, hk, rfl, rfl, ih⟩
  | rule ha _ _ ih ih' =>
    rw [Shaped]
    exact ⟨_, _, _, _, rfl, rfl, hP _ _ ha _ _ ih, ih'⟩
  | absent _ ih =>
    rw [Shaped]
    exact ⟨[], _, _, _, rfl, rfl, .inl ⟨rfl, rfl⟩, ih⟩
  | present _ _ ih ih' =>
    rw [Shaped]
    exact ⟨_, _, _, _, rfl, rfl, .inr ih, ih'⟩
  | stop _ ih =>
    rw [Shaped]
    exact ⟨[], _, [], _, rfl, rfl, .nil, ih⟩
  | more _ _ ih ih' =>
    rw [Shaped] at ih' ⊢
    obtain ⟨ts₁, ts₂, os₁, os₂, rfl, rfl, hrep, hrest⟩ := ih'
    rw [← List.append_assoc, ← List.append_assoc]
    exact ⟨_, _, _, _, rfl, rfl, .cons ih hrep, hrest⟩

end BraceScript.Syntax.Grammar
