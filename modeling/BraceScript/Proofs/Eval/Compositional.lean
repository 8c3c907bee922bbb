import BraceScript.Code.Faults
import BraceScript.Eval.Exec
import BraceScript.Lowering.Expr
import Mathlib

/-!
# The value of an expression

The code of an expression is put together from the codes of its operands as texts are, and its
value is made of the values of what the joined text consists of. `Tree.meaning` says what an
expression stands for without any code: every operator meets the values of its own operands.
`eval_codeOf` says that the code has this value, and that nothing in it is refused, as long as
no operand runs into what stands beside it (`Tree.apart`): a new array, whose code is a product
without brackets, is not called, indexed, negated or a right factor, and no member is asked of a
whole number.
-/

namespace BraceScript.Eval

open Code Lowering

/-! ## Meanings -/

/-- What an expression stands for: its value, with some fuel. -/
abbrev Meaning := Nat → Eval Value

/-- A step that spends fuel, and calls values with the fuel that is left. -/
def spending {α : Type} (f : Nat → Calling α) : Nat → Eval α
  | 0 => throw .outOfFuel
  | n + 1 => callingBy (apply n) (f n)

namespace Meaning

/-- What code stands for. -/
def ofCode (frame : Frame) (e : Expr) : Meaning := fun n => eval n frame e

/-- The values of several expressions, in order. -/
def all (ms : List Meaning) : Nat → Eval (List Value)
  | 0 => throw .outOfFuel
  | n + 1 => ms.mapM (· n)

/-- An expression in brackets. -/
def grouped (m : Meaning) : Meaning := spending fun n => m n

/-- A list of values. -/
def list (ms : List Meaning) : Meaning := spending fun n => do newList (← all ms n).toArray

/-- An attribute of a value. -/
def attr (frame : Frame) (m : Meaning) (x : String) : Meaning := spending fun n => do
  let v ← m n
  attrOf v (frame.meant x)

/-- A call of a value with the values of the arguments. -/
def call (frame : Frame) (f : Meaning) (ms : List Meaning) : Meaning := spending fun n => do
  let f ← f n
  let args ← all ms n
  if isBareSuper f args then superIn frame else Eval.call f args

/-- An item of a value. -/
def index (m i : Meaning) : Meaning := spending fun n => do
  let v ← m n
  Eval.index v (← i n)

/-- An operator in front of its operand. -/
def unary (op : UnaryOp) (m : Meaning) : Meaning := spending fun n =>
  match op with
  | .not => do
    let v ← m n
    return .bool (!(← truth v))
  | .neg => do negative (← m n)

/-- An operator between its operands. The second operand of a logical operator counts only if the
first one does not decide. -/
def binary (op : BinaryOp) (l r : Meaning) : Meaning := spending fun n => do
  let v ← l n
  match op with
  | .or => if ← truth v then return v else r n
  | .and => if ← truth v then r n else return v
  | op => Eval.binary op v (← r n)

/-- One of two values, as a condition says. -/
def choose (v c o : Meaning) : Meaning := spending fun n => do
  let test ← c n
  if ← truth test then v n else o n

/-- A call of a function by its name. -/
def apply (frame : Frame) (f : String) (ms : List Meaning) : Meaning :=
  call frame (ofCode frame (.name f)) ms

/-! Code stands for what its parts stand for, put together. -/

variable (frame : Frame)

theorem ofCode_group (e : Expr) : ofCode frame (.group e) = grouped (ofCode frame e) := by
  funext n
  cases n <;> rfl

theorem all_ofCode (es : List Expr) :
    all (es.map (ofCode frame)) = fun n => evalAll n frame es := by
  funext n
  cases n with
  | zero => rfl
  | succ n =>
    show (es.map (ofCode frame)).mapM (· n) = es.mapM (eval n frame)
    rw [List.mapM_map]
    rfl

theorem ofCode_list (es : List Expr) :
    ofCode frame (.list es) = list (es.map (ofCode frame)) := by
  unfold list
  rw [all_ofCode]
  funext n
  cases n <;> rfl

theorem ofCode_attr (e : Expr) (x : String) :
    ofCode frame (.attr e x) = attr frame (ofCode frame e) x := by
  funext n
  cases n <;> rfl

theorem ofCode_call (f : Expr) (es : List Expr) :
    ofCode frame (.call f es) = call frame (ofCode frame f) (es.map (ofCode frame)) := by
  unfold call
  rw [all_ofCode]
  funext n
  cases n <;> rfl

theorem ofCode_index (e i : Expr) :
    ofCode frame (.index e i) = index (ofCode frame e) (ofCode frame i) := by
  funext n
  cases n <;> rfl

theorem ofCode_unary (op : UnaryOp) (e : Expr) :
    ofCode frame (.unary op e) = unary op (ofCode frame e) := by
  funext n
  cases n <;> cases op <;> rfl

theorem ofCode_binary (op : BinaryOp) (l r : Expr) :
    ofCode frame (.binary op l r) = binary op (ofCode frame l) (ofCode frame r) := by
  funext n
  cases n <;> cases op <;> rfl

theorem ofCode_choose (v c o : Expr) : ofCode frame (.choose v c o)
    = choose (ofCode frame v) (ofCode frame c) (ofCode frame o) := by
  funext n
  cases n <;> rfl

end Meaning

/-! ## Meanings of trees -/

/-- What a binary operator of a script stands for. -/
def binaryMeaning (frame : Frame) (op : Syntax.BinaryOp) (l r : Meaning) : Meaning :=
  match op with
  | .or => .grouped (.binary .or l r)
  | .and => .grouped (.binary .and l r)
  | .eq => .grouped (.binary .eq l r)
  | .ne => .grouped (.binary .ne l r)
  | .lt => .grouped (.binary .lt l r)
  | .le => .grouped (.binary .le l r)
  | .gt => .grouped (.binary .gt l r)
  | .ge => .grouped (.binary .ge l r)
  | .add => .apply frame "_cs_add" [l, r]
  | .sub => .grouped (.binary .sub l r)
  | .mul => .grouped (.binary .mul l r)
  | .div => .apply frame "_cs_div" [l, r]
  | .mod => .apply frame "_cs_mod" [l, r]

/-- What a unary operator of a script stands for. -/
def unaryMeaning (op : Syntax.UnaryOp) (m : Meaning) : Meaning :=
  match op with
  | .not => .grouped (.unary .not m)
  | .neg => .grouped (.unary .neg m)

section

variable (s : Scope) (frame : Frame)

mutual

/-- What an expression of a script stands for, made of what its parts stand for. -/
def treeMeaning : Syntax.Expr → Meaning
  | .number t => .ofCode frame (.number (numberText t.text))
  | .string t => .ofCode frame (.text t.text)
  | .char t => .ofCode frame (.text t.text)
  | .true => .ofCode frame .true
  | .false => .ofCode frame .false
  | .null => .ofCode frame .none
  | .this => .ofCode frame (.name selfName)
  | .name t => .ofCode frame (s.codeOf t.text)
  | .group e => treeMeaning e
  | .member e x =>
    if lengthMembers.contains x.text then .apply frame "len" [treeMeaning e]
    else .attr frame (treeMeaning e) (ident x.text)
  | .call f as =>
    match textMeaning f, as with
    | some m, [] => .apply frame "_cs_str" [m]
    | _, _ => .call frame (treeMeaning f) (treeMeanings as)
  | .index e i => .index (treeMeaning e) (treeMeaning i)
  | .unary op e => unaryMeaning op (treeMeaning e)
  | .binary op l r => binaryMeaning frame op (treeMeaning l) (treeMeaning r)
  | .choice c a b => .grouped (.choose (treeMeaning a) (treeMeaning c) (treeMeaning b))
  | .newObject t as => .apply frame (ident t.text) (treeMeanings as)
  | .newArray t n =>
    .binary .mul (.list [.ofCode frame (defaultValue t.text 0)]) (.grouped (treeMeaning n))
  | .elements _ es => .list (treeMeanings es)

/-- What several expressions stand for. -/
def treeMeanings : List Syntax.Expr → List Meaning
  | [] => []
  | e :: es => treeMeaning e :: treeMeanings es

/-- What a callee asks a text of, if it is a request for a text. -/
def textMeaning : Syntax.Expr → Option Meaning
  | .group e => textMeaning e
  | .member e x => if x.text == "ToString" then some (treeMeaning e) else none
  | _ => none

end

end

/-! ## Operands that stand apart -/

/-- Whether an expression is a new array of some size, which becomes a product without brackets. -/
def isSized : Syntax.Expr → Bool
  | .group e => isSized e
  | .newArray .. => true
  | _ => false

/-- Whether an expression is a number without a point. -/
def isWhole : Syntax.Expr → Bool
  | .group e => isWhole e
  | .number t => !t.text.toList.contains '.'
  | _ => false

mutual

/-- Whether every literal of an expression can be written as it is, and no operand runs into what
stands beside it. -/
def apart : Syntax.Expr → Bool
  | .number t => (numberFault? (numberText t.text)).isNone
  | .string t | .char t => (literalFault? t.text).isNone
  | .true | .false | .null | .this | .name _ => true
  | .group e => apart e
  | .member e x => apart e && (lengthMembers.contains x.text || !isSized e && !isWhole e)
  | .call f as =>
    match textApart f, as with
    | some b, [] => b
    | _, _ => apart f && !isSized f && allApart as
  | .index e i => apart e && !isSized e && apart i
  | .unary .not e => apart e
  | .unary .neg e => apart e && !isSized e
  | .binary .mul l r => apart l && apart r && !isSized r
  | .binary _ l r => apart l && apart r
  | .choice c a b => apart c && apart a && apart b
  | .newObject _ as => allApart as
  | .newArray _ n => apart n
  | .elements _ es => allApart es

/-- Whether this holds of several expressions. -/
def allApart : List Syntax.Expr → Bool
  | [] => true
  | e :: es => apart e && allApart es

/-- Whether it holds of what a callee asks a text of, if it is a request for a text. -/
def textApart : Syntax.Expr → Option Bool
  | .group e => textApart e
  | .member e x => if x.text == "ToString" then some (apart e) else none
  | _ => none

end

/-! ## Joined texts -/

/-- Code whose text is a product without brackets. -/
def isProduct : Expr → Bool
  | .binary .mul .. => true
  | _ => false

theorem trail_eq {e : Expr} (h : isProduct e = false) (f : Expr → Expr) : e.trail f = f e := by
  cases e with
  | binary op a b =>
    cases op with
    | mul => cases h
    | _ => rfl
  | _ => rfl

theorem times_eq {e : Expr} (h : isProduct e = false) (l : Expr) :
    l.times e = .binary .mul l e := by
  cases e with
  | binary op a b =>
    cases op with
    | mul => cases h
    | _ => rfl
  | _ => rfl

theorem negated_eq {e : Expr} (h : isProduct e = false) : e.negated = .unary .neg e := by
  cases e with
  | binary op a b =>
    cases op with
    | mul => cases h
    | _ => rfl
  | _ => rfl

/-- Code that is a number without a point. -/
def isWholeNumber : Expr → Bool
  | .number n => !n.toList.contains '.'
  | _ => false

theorem withAttr_eq {e : Expr} (h : isWholeNumber e = false) (x : String) :
    e.withAttr x = .attr e x := by
  cases e with
  | number n =>
    have hpoint : n.toList.contains '.' = true := by simpa [isWholeNumber] using h
    have hdigits : n.toList.all Char.isDigit = false := by
      rw [List.all_eq_false]
      exact ⟨'.', List.contains_iff_mem.mp hpoint, by decide⟩
    rw [Expr.withAttr, hdigits, Bool.false_and]
    rfl
  | _ => rfl

theorem memberCode_eq {c : Expr} (hp : isProduct c = false) (hw : isWholeNumber c = false)
    {x : String} (hx : lengthMembers.contains x = false) :
    memberCode c x = .attr c (ident x) := by
  rw [memberCode, hx, if_neg Bool.false_ne_true, trail_eq hp, withAttr_eq hw]

theorem memberCode_length (c : Expr) {x : String} (hx : lengthMembers.contains x = true) :
    memberCode c x = .apply "len" [c] := by
  rw [memberCode, if_pos hx]

/-- A call that is no request for a text. -/
theorem callCode_eq {c : Expr} (hp : isProduct c = false) {text : Option Expr}
    {as : List Expr} (h : text = none ∨ as ≠ []) : callCode text c as = .call c as := by
  unfold callCode
  split
  · rcases h with h | h
    · cases h
    · exact absurd rfl h
  · exact trail_eq hp _

/-! ## The code of operands that stand apart -/

section

variable (s : Scope)

theorem isSome_textCode : ∀ f : Syntax.Expr, (textCode s f).isSome = (textApart f).isSome
  | .group f => isSome_textCode f
  | .member e x => by
    rw [textCode, textApart]
    split <;> rfl
  | .number _ | .string _ | .char _ | .true | .false | .null | .this | .name _ | .call ..
  | .index .. | .unary .. | .binary .. | .choice .. | .newObject .. | .newArray ..
  | .elements .. => rfl

theorem isSome_textMeaning (frame : Frame) : ∀ f : Syntax.Expr,
    (textMeaning s frame f).isSome = (textApart f).isSome
  | .group f => isSome_textMeaning frame f
  | .member e x => by
    rw [textMeaning, textApart]
    split <;> rfl
  | .number _ | .string _ | .char _ | .true | .false | .null | .this | .name _ | .call ..
  | .index .. | .unary .. | .binary .. | .choice .. | .newObject .. | .newArray ..
  | .elements .. => rfl

/-- A call is a request for a text, or the callee stands apart from the arguments. -/
theorem apart_call {f : Syntax.Expr} {as : List Syntax.Expr} (h : apart (.call f as)) :
    (textApart f = some true ∧ as = [])
      ∨ ((textApart f = none ∨ as ≠ []) ∧ apart f ∧ isSized f = false ∧ allApart as) := by
  have hrest : (apart f && !isSized f && allApart as) = true →
      apart f ∧ isSized f = false ∧ allApart as := by
    intro h
    simpa only [Bool.and_eq_true, Bool.not_eq_true', and_assoc] using h
  unfold apart at h
  cases ht : textApart f with
  | none =>
    rw [ht] at h
    exact .inr ⟨.inl rfl, hrest h⟩
  | some b =>
    rw [ht] at h
    cases as with
    | nil =>
      have hb : b = true := h
      exact .inl ⟨by rw [hb], rfl⟩
    | cons a as => exact .inr ⟨.inr (List.cons_ne_nil a as), hrest h⟩

theorem treeMeaning_request (frame : Frame) {f : Syntax.Expr} {m : Meaning}
    (h : textMeaning s frame f = some m) :
    treeMeaning s frame (.call f []) = .apply frame "_cs_str" [m] := by
  unfold treeMeaning
  rw [h]

theorem treeMeaning_call (frame : Frame) {f : Syntax.Expr} {as : List Syntax.Expr}
    (h : textApart f = none ∨ as ≠ []) : treeMeaning s frame (.call f as)
      = .call frame (treeMeaning s frame f) (treeMeanings s frame as) := by
  have hsome := isSome_textMeaning s frame f
  rw [treeMeaning]
  intro m hm has
  rw [hm] at hsome
  rcases h with h | h
  · rw [h] at hsome
    cases hsome
  · exact h has

/-- What the code of an expression is not: a product without brackets, unless the expression is a
new array, and a whole number, unless it is one. -/
def KeepsShape (e : Syntax.Expr) : Prop :=
  (isSized e = false → isProduct (codeOf s e) = false)
    ∧ (isWhole e = false → isWholeNumber (codeOf s e) = false)

/-- The code of a member is that of a length, or of an attribute of something that is no whole
number. -/
theorem codeOf_member {e : Syntax.Expr} {x : Syntax.Token} (h : apart (.member e x))
    (hshape : apart e → KeepsShape s e) :
    apart e ∧ ((lengthMembers.contains x.text = true
        ∧ codeOf s (.member e x) = .apply "len" [codeOf s e])
      ∨ (lengthMembers.contains x.text = false ∧ isWholeNumber (codeOf s e) = false
        ∧ codeOf s (.member e x) = .attr (codeOf s e) (ident x.text))) := by
  rw [apart, Bool.and_eq_true] at h
  obtain ⟨he, hx⟩ := h
  refine ⟨he, ?_⟩
  cases hlength : lengthMembers.contains x.text with
  | true => exact .inl ⟨rfl, memberCode_length _ hlength⟩
  | false =>
    rw [hlength, Bool.false_or, Bool.and_eq_true, Bool.not_eq_true', Bool.not_eq_true'] at hx
    have hwhole := (hshape he).2 hx.2
    exact .inr ⟨rfl, hwhole, memberCode_eq ((hshape he).1 hx.1) hwhole hlength⟩

theorem codeOf_index {e i : Syntax.Expr} (h : apart (.index e i))
    (hshape : apart e → KeepsShape s e) :
    apart e ∧ apart i ∧ codeOf s (.index e i) = .index (codeOf s e) (codeOf s i) := by
  rw [apart, Bool.and_eq_true, Bool.and_eq_true, Bool.not_eq_true'] at h
  obtain ⟨⟨he, hsized⟩, hi⟩ := h
  refine ⟨he, hi, ?_⟩
  rw [codeOf, trail_eq ((hshape he).1 hsized)]

/-- The code of a call is that of a request for a text, or a call of the code of the callee. -/
theorem codeOf_call {f : Syntax.Expr} {as : List Syntax.Expr} (h : apart (.call f as))
    (hshape : apart f → KeepsShape s f) :
    (textApart f = some true ∧ as = []
        ∧ ∃ c, textCode s f = some c ∧ codeOf s (.call f as) = .apply "_cs_str" [c])
      ∨ ((textApart f = none ∨ as ≠ []) ∧ apart f ∧ allApart as
        ∧ codeOf s (.call f as) = .call (codeOf s f) (codesOf s as)) := by
  rcases apart_call h with ⟨htext, rfl⟩ | ⟨htext, hf, hsized, has⟩
  · obtain ⟨c, hc⟩ : ∃ c, textCode s f = some c := by
      rw [← Option.isSome_iff_exists, isSome_textCode, htext]
      rfl
    refine .inl ⟨htext, rfl, c, hc, ?_⟩
    rw [codeOf, hc]
    rfl
  · refine .inr ⟨htext, hf, has, ?_⟩
    have hcode : textCode s f = none ∨ codesOf s as ≠ [] := by
      refine htext.imp (fun h => ?_) fun h => ?_
      · rw [← Option.isNone_iff_eq_none, ← Option.not_isSome, isSome_textCode, h]
        rfl
      · cases as with
        | nil => exact absurd rfl h
        | cons a as => exact List.cons_ne_nil _ _
    rw [codeOf, callCode_eq ((hshape hf).1 hsized) hcode]

/-- When operands stand apart, only a new array becomes a product without brackets, and only a
number becomes a number. -/
theorem codeOf_shape : ∀ {e : Syntax.Expr}, apart e → KeepsShape s e
  | .group e, h => codeOf_shape (e := e) h
  | .number t, _ => by
    refine ⟨fun _ => rfl, fun hw => ?_⟩
    have hpoint : t.text.toList.contains '.' = true := by simpa [isWhole] using hw
    rw [codeOf, numberText, if_pos hpoint, isWholeNumber, hpoint]
    rfl
  | .name t, _ => by
    unfold KeepsShape codeOf Scope.codeOf
    split
    · split <;> exact ⟨fun _ => rfl, fun _ => rfl⟩
    all_goals exact ⟨fun _ => rfl, fun _ => rfl⟩
  | .member e x, h => by
    unfold KeepsShape
    rcases (codeOf_member s h codeOf_shape).2 with ⟨-, hcode⟩ | ⟨-, -, hcode⟩ <;>
    · rw [hcode]
      exact ⟨fun _ => rfl, fun _ => rfl⟩
  | .call f as, h => by
    unfold KeepsShape
    rcases codeOf_call s h codeOf_shape with ⟨-, -, c, -, hcode⟩ | ⟨-, -, -, hcode⟩ <;>
    · rw [hcode]
      exact ⟨fun _ => rfl, fun _ => rfl⟩
  | .index e i, h => by
    have hcode := (codeOf_index s h codeOf_shape).2.2
    unfold KeepsShape
    rw [hcode]
    exact ⟨fun _ => rfl, fun _ => rfl⟩
  | .unary op e, _ => by cases op <;> exact ⟨fun _ => rfl, fun _ => rfl⟩
  | .binary op l r, _ => by cases op <;> exact ⟨fun _ => rfl, fun _ => rfl⟩
  | .newArray t n, _ => ⟨nofun, fun _ => rfl⟩
  | .string _, _ | .char _, _ | .true, _ | .false, _ | .null, _ | .this, _
  | .choice .., _ | .newObject .., _ | .elements .., _ => ⟨fun _ => rfl, fun _ => rfl⟩

theorem apart_binary {op : Syntax.BinaryOp} (hop : op ≠ .mul) {l r : Syntax.Expr}
    (h : apart (.binary op l r)) : apart l ∧ apart r := by
  rw [← Bool.and_eq_true]
  cases op with
  | mul => exact absurd rfl hop
  | _ => exact h

theorem codeOf_mul {l r : Syntax.Expr} (h : apart (.binary .mul l r)) :
    apart l ∧ apart r ∧ codeOf s (.binary .mul l r) = .grouped .mul (codeOf s l) (codeOf s r) := by
  rw [apart, Bool.and_eq_true, Bool.and_eq_true, Bool.not_eq_true'] at h
  obtain ⟨⟨hl, hr⟩, hsized⟩ := h
  refine ⟨hl, hr, ?_⟩
  rw [codeOf, binaryCode, times_eq ((codeOf_shape s hr).1 hsized)]
  rfl

theorem codeOf_neg {e : Syntax.Expr} (h : apart (.unary .neg e)) :
    apart e ∧ codeOf s (.unary .neg e) = .group (.unary .neg (codeOf s e)) := by
  rw [apart, Bool.and_eq_true, Bool.not_eq_true'] at h
  refine ⟨h.1, ?_⟩
  rw [codeOf, unaryCode, negated_eq ((codeOf_shape s h.1).1 h.2)]

end

/-! ## The value of the code -/

section

open Meaning

variable (s : Scope) (frame : Frame)

theorem ofCode_apply (f : String) (es : List Expr) :
    ofCode frame (.apply f es) = Meaning.apply frame f (es.map (ofCode frame)) :=
  ofCode_call frame (.name f) es

theorem ofCode_grouped (op : BinaryOp) (l r : Expr) : ofCode frame (.grouped op l r)
    = grouped (Meaning.binary op (ofCode frame l) (ofCode frame r)) := by
  rw [Expr.grouped, ofCode_group, ofCode_binary]

mutual

theorem ofCode_codeOf : ∀ {e : Syntax.Expr}, apart e →
    ofCode frame (codeOf s e) = treeMeaning s frame e
  | .number _, _ | .string _, _ | .char _, _ | .true, _ | .false, _ | .null, _ | .this, _
  | .name _, _ => rfl
  | .group e, h => ofCode_codeOf (e := e) h
  | .member e x, h => by
    obtain ⟨he, hcode⟩ := codeOf_member s h (codeOf_shape s)
    rw [treeMeaning, ← ofCode_codeOf he]
    rcases hcode with ⟨hlength, hcode⟩ | ⟨hlength, -, hcode⟩
    · rw [hcode, if_pos hlength]
      exact ofCode_apply frame _ _
    · rw [hcode, hlength, if_neg Bool.false_ne_true, ofCode_attr]
  | .call f as, h => by
    rcases codeOf_call s h (codeOf_shape s) with ⟨htext, rfl, c, hc, hcode⟩ | ⟨htext, hf, has, hcode⟩
    · have hmeaning := ofCode_textCode htext
      rw [hc, Option.map_some] at hmeaning
      rw [hcode, ofCode_apply, treeMeaning_request s frame hmeaning.symm]
      rfl
    · rw [hcode, ofCode_call, ofCode_codeOf hf, ofCode_codesOf has, treeMeaning_call s frame htext]
  | .index e i, h => by
    obtain ⟨he, hi, hcode⟩ := codeOf_index s h (codeOf_shape s)
    rw [hcode, ofCode_index, ofCode_codeOf he, ofCode_codeOf hi, treeMeaning]
  | .unary .not e, h => by
    have he : apart e := h
    rw [treeMeaning, unaryMeaning, ← ofCode_codeOf he, ← ofCode_unary, ← ofCode_group]
    rfl
  | .unary .neg e, h => by
    obtain ⟨he, hcode⟩ := codeOf_neg s h
    rw [hcode, ofCode_group, ofCode_unary, ofCode_codeOf he]
    rfl
  | .binary op l r, h => by
    by_cases hop : op = .mul
    · subst hop
      obtain ⟨hl, hr, hcode⟩ := codeOf_mul s h
      rw [hcode, ofCode_grouped, ofCode_codeOf hl, ofCode_codeOf hr]
      rfl
    · obtain ⟨hl, hr⟩ := apart_binary hop h
      rw [treeMeaning, ← ofCode_codeOf hl, ← ofCode_codeOf hr]
      cases op with
      | mul => exact absurd rfl hop
      | add | div | mod => exact ofCode_apply frame _ _
      | _ => exact ofCode_grouped frame _ _ _
  | .choice c a b, h => by
    rw [apart, Bool.and_eq_true, Bool.and_eq_true] at h
    obtain ⟨⟨hc, ha⟩, hb⟩ := h
    rw [codeOf, ofCode_group, ofCode_choose, ofCode_codeOf hc, ofCode_codeOf ha, ofCode_codeOf hb,
      treeMeaning]
  | .newObject t as, h => by
    rw [codeOf, ofCode_apply, ofCode_codesOf h, treeMeaning]
  | .newArray t n, h => by
    have hn : apart n := h
    rw [codeOf, ofCode_binary, ofCode_list, ofCode_group, ofCode_codeOf hn, treeMeaning]
    rfl
  | .elements _ es, h => by
    rw [codeOf, ofCode_list, ofCode_codesOf h, treeMeaning]

theorem ofCode_codesOf : ∀ {es : List Syntax.Expr}, allApart es →
    (codesOf s es).map (ofCode frame) = treeMeanings s frame es
  | [], _ => rfl
  | e :: es, h => by
    rw [allApart, Bool.and_eq_true] at h
    rw [codesOf, List.map_cons, ofCode_codeOf h.1, ofCode_codesOf h.2, treeMeanings]

theorem ofCode_textCode : ∀ {f : Syntax.Expr}, textApart f = some true →
    (textCode s f).map (ofCode frame) = textMeaning s frame f
  | .group f, h => ofCode_textCode (f := f) h
  | .member e x, h => by
    rw [textApart] at h
    split at h
    · next hx =>
      rw [textCode, if_pos hx, textMeaning, if_pos hx, Option.map_some,
        ofCode_codeOf (Option.some.inj h)]
    · cases h

end

end

/-! ## Code that is accepted -/

mutual

/-- Whether the literals of code can be written as they are, and no name follows a number. -/
def isSound : Expr → Bool
  | .number n => (numberFault? n).isNone
  | .text t => (literalFault? t).isNone
  | .attr e _ => isSound e && !isWholeNumber e
  | .group e => isSound e
  | .list es => allSound es
  | .call f es => isSound f && allSound es
  | .index e i => isSound e && isSound i
  | .unary _ e => isSound e
  | .binary _ l r => isSound l && isSound r
  | .choose v c o => isSound v && isSound c && isSound o
  | .name _ | .true | .false | .none => true

/-- Whether this holds of several expressions. -/
def allSound : List Expr → Bool
  | [] => true
  | e :: es => isSound e && allSound es

end

theorem attrOfWhole?_eq_none {e : Expr} (h : isWholeNumber e = false) (x : String) :
    attrOfWhole? (.attr e x) = none := by
  cases e with
  | number n =>
    have hpoint : n.toList.contains '.' = true := by simpa [isWholeNumber] using h
    rw [attrOfWhole?, if_pos hpoint]
  | _ => rfl

theorem strayWord?_eq_none {e : Expr} (h : isWholeNumber e = false) (x : String) :
    strayWord? (.attr e x) = none := by
  rw [strayWord?, attrOfWhole?_eq_none h]
  rfl

theorem beginsStray_eq_false : ∀ {e : Expr}, isSound e → beginsStray e = false
  | .attr e x, h => by
    rw [isSound, Bool.and_eq_true, Bool.not_eq_true'] at h
    rw [beginsStray, strayWord?_eq_none h.2, beginsStray_eq_false h.1]
    rfl
  | .call f es, h => by
    rw [isSound, Bool.and_eq_true] at h
    rw [beginsStray, beginsStray_eq_false h.1]
  | .index e i, h => by
    rw [isSound, Bool.and_eq_true] at h
    rw [beginsStray, beginsStray_eq_false h.1]
  | .name _, _ | .number _, _ | .text _, _ | .true, _ | .false, _ | .none, _ | .group _, _
  | .list _, _ | .unary .., _ | .binary .., _ | .choose .., _ => rfl

mutual

theorem wordFault?_eq_none : ∀ {e : Expr}, isSound e → wordFault? e = none
  | .name _, _ | .text _, _ | .true, _ | .false, _ | .none, _ => rfl
  | .number n, h => Option.isNone_iff_eq_none.mp h
  | .attr e x, h => by
    rw [isSound, Bool.and_eq_true, Bool.not_eq_true'] at h
    rw [wordFault?, wordFault?_eq_none h.1, attrOfWhole?_eq_none h.2]
    rfl
  | .group e, h => wordFault?_eq_none (e := e) h
  | .list es, h => wordFaults?_eq_none (l := es) h
  | .call f es, h => by
    rw [isSound, Bool.and_eq_true] at h
    rw [wordFault?, wordFault?_eq_none h.1, wordFaults?_eq_none h.2]
    rfl
  | .index e i, h => by
    rw [isSound, Bool.and_eq_true] at h
    rw [wordFault?, wordFault?_eq_none h.1, wordFault?_eq_none h.2]
    rfl
  | .unary _ e, h => wordFault?_eq_none (e := e) h
  | .binary _ l r, h => by
    rw [isSound, Bool.and_eq_true] at h
    rw [wordFault?, wordFault?_eq_none h.1, wordFault?_eq_none h.2]
    rfl
  | .choose v c o, h => by
    rw [isSound, Bool.and_eq_true, Bool.and_eq_true] at h
    rw [wordFault?, wordFault?_eq_none h.1.1, wordFault?_eq_none h.1.2, wordFault?_eq_none h.2]
    rfl

theorem wordFaults?_eq_none : ∀ {l : List Expr}, allSound l → wordFaults? l = none
  | [], _ => rfl
  | e :: es, h => by
    rw [allSound, Bool.and_eq_true] at h
    rw [wordFaults?, wordFault?_eq_none h.1, wordFaults?_eq_none h.2]
    rfl

end

mutual

theorem grammarFault?_eq_none : ∀ {e : Expr}, isSound e → ∀ inner, grammarFault? inner e = none
  | .name _, _, _ | .number _, _, _ | .true, _, _ | .false, _, _ | .none, _, _ => rfl
  | .text t, h, _ => Option.isNone_iff_eq_none.mp h
  | .attr e x, h, inner => by
    rw [isSound, Bool.and_eq_true, Bool.not_eq_true'] at h
    rw [grammarFault?, strayWord?_eq_none h.2]
    exact grammarFault?_eq_none h.1 inner
  | .group e, h, _ => grammarFault?_eq_none (e := e) h _
  | .list es, h, _ => grammarFaults?_eq_none (l := es) h
  | .call f es, h, inner => by
    rw [isSound, Bool.and_eq_true] at h
    rw [grammarFault?, grammarFault?_eq_none h.1, grammarFaults?_eq_none h.2]
    rfl
  | .index e i, h, inner => by
    rw [isSound, Bool.and_eq_true] at h
    rw [grammarFault?, grammarFault?_eq_none h.1, grammarFault?_eq_none h.2]
    rfl
  | .unary _ e, h, _ => grammarFault?_eq_none (e := e) h _
  | .binary _ l r, h, inner => by
    rw [isSound, Bool.and_eq_true] at h
    rw [grammarFault?, grammarFault?_eq_none h.1, grammarFault?_eq_none h.2]
    rfl
  | .choose v c o, h, inner => by
    rw [isSound, Bool.and_eq_true, Bool.and_eq_true] at h
    rw [grammarFault?, grammarFault?_eq_none h.1.1, beginsStray_eq_false h.1.2,
      grammarFault?_eq_none h.1.2, grammarFault?_eq_none h.2]
    rfl

theorem grammarFaults?_eq_none : ∀ {l : List Expr}, allSound l → grammarFaults? l = none
  | [], _ => rfl
  | e :: es, h => by
    rw [allSound, Bool.and_eq_true] at h
    rw [grammarFaults?, grammarFault?_eq_none h.1, grammarFaults?_eq_none h.2]
    rfl

end

theorem isSound_defaultValue (name : String) (rank : Nat) : isSound (defaultValue name rank) := by
  have hall : ∀ v ∈ defaultValues, isSound v.2 := by decide +kernel
  unfold defaultValue
  split
  · rfl
  · cases hv : defaultValues.lookup name with
    | none => rfl
    | some v =>
      obtain ⟨before, after, hsplit, -⟩ := List.lookup_eq_some_iff.mp hv
      refine hall (name, v) ?_
      rw [hsplit]
      exact List.mem_append_right before List.mem_cons_self

section

variable (s : Scope)

theorem isSound_binaryCode {op : Syntax.BinaryOp} (hop : op ≠ .mul) {l r : Expr} (hl : isSound l)
    (hr : isSound r) : isSound (binaryCode op l r) := by
  have hboth : (isSound l && isSound r) = true := by rw [hl, hr]; rfl
  have hlist : allSound [l, r] = true := by rw [allSound, allSound, allSound, hl, hr]; rfl
  cases op with
  | mul => exact absurd rfl hop
  | add | div | mod => exact hlist
  | _ => exact hboth

mutual

theorem isSound_codeOf : ∀ {e : Syntax.Expr}, apart e → isSound (codeOf s e)
  | .number _, h | .string _, h | .char _, h => h
  | .true, _ | .false, _ | .null, _ | .this, _ => rfl
  | .name t, _ => by
    unfold codeOf Scope.codeOf
    split
    · split <;> rfl
    all_goals rfl
  | .group e, h => isSound_codeOf (e := e) h
  | .member e x, h => by
    obtain ⟨he, hcode⟩ := codeOf_member s h (codeOf_shape s)
    have ih := isSound_codeOf he
    rcases hcode with ⟨-, hcode⟩ | ⟨-, hwhole, hcode⟩
    · rw [hcode]
      show allSound [codeOf s e] = true
      rw [allSound, ih]
      rfl
    · rw [hcode, isSound, ih, hwhole]
      rfl
  | .call f as, h => by
    rcases codeOf_call s h (codeOf_shape s) with ⟨htext, rfl, c, hc, hcode⟩ | ⟨-, hf, has, hcode⟩
    · have ih := isSound_textCode htext hc
      rw [hcode]
      show allSound [c] = true
      rw [allSound, ih]
      rfl
    · rw [hcode, isSound, isSound_codeOf hf, isSound_codesOf has]
      rfl
  | .index e i, h => by
    obtain ⟨he, hi, hcode⟩ := codeOf_index s h (codeOf_shape s)
    rw [hcode, isSound, isSound_codeOf he, isSound_codeOf hi]
    rfl
  | .unary .not e, h => by
    have he : apart e := h
    have ih := isSound_codeOf he
    exact ih
  | .unary .neg e, h => by
    obtain ⟨he, hcode⟩ := codeOf_neg s h
    rw [hcode]
    exact isSound_codeOf he
  | .binary op l r, h => by
    by_cases hop : op = .mul
    · subst hop
      obtain ⟨hl, hr, hcode⟩ := codeOf_mul s h
      rw [hcode, Expr.grouped, isSound, isSound, isSound_codeOf hl, isSound_codeOf hr]
      rfl
    · obtain ⟨hl, hr⟩ := apart_binary hop h
      exact isSound_binaryCode hop (isSound_codeOf hl) (isSound_codeOf hr)
  | .choice c a b, h => by
    rw [apart, Bool.and_eq_true, Bool.and_eq_true] at h
    obtain ⟨⟨hc, ha⟩, hb⟩ := h
    rw [codeOf, isSound, isSound, isSound_codeOf hc, isSound_codeOf ha, isSound_codeOf hb]
    rfl
  | .newObject t as, h => isSound_codesOf (l := as) h
  | .newArray t n, h => by
    have hn : apart n := h
    rw [codeOf, isSound, isSound, isSound, allSound, isSound_defaultValue, isSound_codeOf hn]
    rfl
  | .elements _ es, h => isSound_codesOf (l := es) h

theorem isSound_codesOf : ∀ {l : List Syntax.Expr}, allApart l → allSound (codesOf s l)
  | [], _ => rfl
  | e :: es, h => by
    rw [allApart, Bool.and_eq_true] at h
    rw [codesOf, allSound, isSound_codeOf h.1, isSound_codesOf h.2]
    rfl

theorem isSound_textCode : ∀ {f : Syntax.Expr} {c : Expr}, textApart f = some true →
    textCode s f = some c → isSound c
  | .group f, _, h, hc => isSound_textCode (f := f) h hc
  | .member e x, c, h, hc => by
    rw [textApart] at h
    rw [textCode] at hc
    split at h
    · next hx =>
      rw [if_pos hx] at hc
      rw [← Option.some.inj hc]
      exact isSound_codeOf (Option.some.inj h)
    · cases h

end

end

/-- The code of an expression whose operands stand apart has the value that the expression stands
for, or fails as it does, and nothing in the code is refused. -/
theorem eval_codeOf {s : Scope} {e : Syntax.Expr} (h : apart e) :
    (∀ frame n, eval n frame (codeOf s e) = treeMeaning s frame e n)
      ∧ wordFault? (codeOf s e) = none ∧ ∀ inner, grammarFault? inner (codeOf s e) = none :=
  have hsound := isSound_codeOf s h
  ⟨fun frame => congrFun (ofCode_codeOf s frame h), wordFault?_eq_none hsound,
    grammarFault?_eq_none hsound⟩

/-- A static member of a class without members. -/
def emptyScope : Scope := ⟨⟨"P", [], []⟩, true, [], false⟩

/-- A token of some kind somewhere. -/
def tokenOf (kind : Syntax.Kind) (text : String) : Syntax.Token := ⟨kind, text, .start⟩

/-- A whole number in a script. -/
def wholeTree (text : String) : Syntax.Expr := .number (tokenOf .number text)

/-- The product of a difference in brackets and an item of an array. -/
def productTree : Syntax.Expr :=
  .binary .mul (.group (.binary .sub (wholeTree "2") (wholeTree "5")))
    (.index (.elements (tokenOf .name "int") [wholeTree "4"]) (wholeTree "0"))

theorem eval_codeOf_product : apart productTree = true
    ∧ (∀ frame n, eval n frame (codeOf emptyScope productTree)
      = treeMeaning emptyScope frame productTree n)
    ∧ wordFault? (codeOf emptyScope productTree) = none
    ∧ ∀ inner, grammarFault? inner (codeOf emptyScope productTree) = none :=
  have hproduct : apart productTree = true := by decide +kernel
  ⟨hproduct, eval_codeOf hproduct⟩

/-- What stands behind a new array goes to its size, and a sign in front to the list that is
repeated. -/
theorem codeOf_sized (s : Scope) : ∀ {e : Syntax.Expr}, isSized e → ∃ value size,
    codeOf s e = .binary .mul (.list [value]) (.group size)
      ∧ (∀ i, codeOf s (.index e i)
        = .binary .mul (.list [value]) (.index (.group size) (codeOf s i)))
      ∧ codeOf s (.unary .neg e)
        = .group (.binary .mul (.unary .neg (.list [value])) (.group size))
  | .group e, h => codeOf_sized s (e := e) h
  | .newArray t n, _ => ⟨defaultValue t.text 0, codeOf s n, rfl, fun _ => rfl, rfl⟩

example : (codeOf emptyScope (.index (.newArray (tokenOf .name "int") (wholeTree "3"))
    (wholeTree "0"))).print = "[0] * (3)[0]" := by decide +kernel

end BraceScript.Eval
