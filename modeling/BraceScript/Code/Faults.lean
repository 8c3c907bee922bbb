import BraceScript.Code.Literal
import BraceScript.Code.Names
import BraceScript.Code.Text

/-!
# Faults of generated code

Lowering does not look at everything that can be wrong with a class. `Class.fault?` finds the
first thing for which its code is refused. The text is gone through several times: for its words,
then for its grammar, then for the parameters of its functions, then for jumps and for names that
cannot be assigned. A fault of an earlier round comes before every fault of a later one.
-/

namespace BraceScript.Code

/-- What is wrong with the code of a class. -/
inductive Fault
  /-- A name right behind a number. -/
  | decimal
  /-- A name right behind an imaginary number. -/
  | imaginary
  /-- A digit that numbers cannot be written with. -/
  | character (c : Char)
  | escape (fault : EscapeFault)
  | grammar
  | missingComma
  | missingElse
  /-- Something that cannot be assigned to; `mistaken` if a comparison may have been meant. -/
  | target (kind : String) (mistaken : Bool)
  /-- Something whose old value cannot be changed. -/
  | augmented (kind : String)
  | parameter (name : String)
  | breakOutside
  | continueOutside
  | constantName
  deriving DecidableEq, Repr

/-- The digits of a code point in upper case, at least four. -/
def codePointText (c : Char) : String :=
  let ds := (Nat.toDigits 16 c.toNat).map Char.toUpper
  String.ofList (List.replicate (4 - ds.length) '0' ++ ds)

/-- The wording of a fault. -/
def Fault.message : Fault → String
  | .decimal => "invalid decimal literal"
  | .imaginary => "invalid imaginary literal"
  | .character c =>
    "invalid character '" ++ String.ofList [c] ++ "' (U+" ++ codePointText c ++ ")"
  | .escape f => "(unicode error) 'unicodeescape' codec can't decode bytes in position "
      ++ toString f.first ++ "-" ++ toString f.last ++ ": " ++ f.reason.text
  | .grammar => "invalid syntax"
  | .missingComma => "invalid syntax. Perhaps you forgot a comma?"
  | .missingElse => "expected 'else' after 'if' expression"
  | .target k false => "cannot assign to " ++ k
  | .target k true => "cannot assign to " ++ k ++ " here. Maybe you meant '==' instead of '='?"
  | .augmented k => "'" ++ k ++ "' is an illegal expression for augmented assignment"
  | .parameter x => "duplicate argument '" ++ x ++ "' in function definition"
  | .breakOutside => "'break' outside loop"
  | .continueOutside => "'continue' not properly in loop"
  | .constantName => "cannot assign to __debug__"

/-! ## Words -/

/-- The operators that may stand right behind a number, as words. -/
def operatorWords : List String := ["and", "else", "for", "if", "in", "is", "not", "or"]

/-- Whether a number may end in front of the characters of a name. -/
def mayFollowNumber : List Char → Bool
  | 'i' :: c :: _ => c == 'f' || c == 'n' || c == 's'
  | cs => operatorWords.contains (String.ofList cs)

/-- How the characters of a name read on from a whole number and a point. -/
inductive Continuation
  | fault (f : Fault)
  /-- The number ends and this word follows. -/
  | word (text : String)

/-- How a name reads on behind the end of a number. -/
def behindNumber (f : Fault) (cs : List Char) : Continuation :=
  if mayFollowNumber cs then .word (String.ofList cs) else .fault f

/-- How a name reads on behind the digits of an exponent. -/
def behindExponent : List Char → Continuation
  | '_' :: d :: cs => if d.isDigit then behindExponent cs else .fault .decimal
  | c :: cs =>
    if c.isDigit then behindExponent cs
    else if c == 'j' || c == 'J' then behindNumber .imaginary cs
    else behindNumber .decimal (c :: cs)
  | [] => .word ""

/-- How a name reads on behind a whole number and a point. -/
def behindPoint : List Char → Continuation
  | c :: d :: cs =>
    if c == 'j' || c == 'J' then behindNumber .imaginary (d :: cs)
    else if (c == 'e' || c == 'E') && d.isDigit then behindExponent cs
    else behindNumber .decimal (c :: d :: cs)
  | cs => behindNumber .decimal cs

/-- The fault of the text of a number. A digit beyond ASCII in front makes it no number at all;
behind others it is taken for a name that begins there. -/
def numberFault? (text : String) : Option Fault :=
  match text.toList with
  | [] => none
  | c :: cs =>
    if 127 < c.toNat then some (.character c)
    else if cs.any fun c => 127 < c.toNat then some .decimal
    else none

/-- The name behind a number in an attribute of a number that is written without a point. -/
def attrOfWhole? : Expr → Option String
  | .attr (.number n) x => if n.toList.contains '.' then none else some x
  | _ => none

mutual

/-- The first fault of the words of an expression. -/
def wordFault? : Expr → Option Fault
  | .number n => numberFault? n
  | .attr e x =>
    wordFault? e <|>
      match attrOfWhole? (.attr e x) with
      | none => none
      | some x =>
        match behindPoint x.toList with
        | .fault f => some f
        | .word _ => none
  | .group e => wordFault? e
  | .list es => wordFaults? es
  | .call f es => wordFault? f <|> wordFaults? es
  | .index e i => wordFault? e <|> wordFault? i
  | .unary _ e => wordFault? e
  | .binary _ l r => wordFault? l <|> wordFault? r
  | .choose v c o => wordFault? v <|> wordFault? c <|> wordFault? o
  | _ => none

/-- The first fault of the words of several expressions. -/
def wordFaults? : List Expr → Option Fault
  | [] => none
  | e :: es => wordFault? e <|> wordFaults? es

end

/-- The expressions of a value that may be absent. -/
def optionExprs : Option Expr → List Expr
  | none => []
  | some e => [e]

mutual

/-- The expressions of a statement in the order of the text. -/
def Stmt.exprs : Stmt → List Expr
  | .expr e => [e]
  | .assign t e => [t, e]
  | .augment t _ e => [t, e]
  | .ret e => optionExprs e
  | .raise e => optionExprs e
  | .ite c b t => c :: Stmt.allExprs b ++ t.exprs
  | .while c b => c :: Stmt.allExprs b
  | .forIn _ e b => e :: Stmt.allExprs b
  | .attempt b hs none => Stmt.allExprs b ++ Handler.allExprs hs
  | .attempt b hs (some f) => Stmt.allExprs b ++ Handler.allExprs hs ++ Stmt.allExprs f
  | .pass | .brk | .cont => []

/-- The expressions of statements. -/
def Stmt.allExprs : List Stmt → List Expr
  | [] => []
  | s :: ss => s.exprs ++ Stmt.allExprs ss

/-- The expressions of the rest of a conditional. -/
def Tail.exprs : Tail → List Expr
  | .none => []
  | .otherwise b => Stmt.allExprs b
  | .elif c b t => c :: Stmt.allExprs b ++ t.exprs

/-- The expressions of handlers. -/
def Handler.allExprs : List Handler → List Expr
  | [] => []
  | .mk _ _ b :: hs => Stmt.allExprs b ++ Handler.allExprs hs

end

/-- The expressions of a class. -/
def Class.exprs (c : Class) : List Expr :=
  c.functions.flatMap (fun f => Stmt.allExprs f.body) ++ c.fields.map (·.2)

/-! ## Grammar -/

/-- The word that stands right behind a number in an expression, if one does. -/
def strayWord? (e : Expr) : Option String :=
  (attrOfWhole? e).bind fun x =>
    match behindPoint x.toList with
    | .word w => some w
    | .fault _ => none

/-- Whether an expression begins with a number and a stray word. -/
def beginsStray : Expr → Bool
  | .attr e x => (strayWord? (.attr e x)).isSome || beginsStray e
  | .call f _ => beginsStray f
  | .index e _ => beginsStray e
  | _ => false

/-- The fault of a stray word; `inner` says whether it stands inside brackets. -/
def strayFault (inner : Bool) (word : String) : Fault :=
  if inner && !operatorWords.contains word then .missingComma else .grammar

/-- The fault of a string literal. -/
def literalFault? (t : String) : Option Fault :=
  match decodeLiteral t with
  | .ok _ => none
  | .error f => some (.escape f)

mutual

/-- The first grammatical fault of an expression. -/
def grammarFault? (inner : Bool) : Expr → Option Fault
  | .text t => literalFault? t
  | .attr e x =>
    match strayWord? (.attr e x) with
    | some w => some (strayFault inner w)
    | none => grammarFault? inner e
  | .group e => grammarFault? true e
  | .list es => grammarFaults? es
  | .call f es => grammarFault? inner f <|> grammarFaults? es
  | .index e i => grammarFault? inner e <|> grammarFault? true i
  | .unary _ e => grammarFault? inner e
  | .binary _ l r => grammarFault? inner l <|> grammarFault? inner r
  | .choose v c o =>
    grammarFault? inner v
      <|> (if beginsStray c then some .missingElse else grammarFault? inner c)
      <|> grammarFault? inner o
  | _ => none

/-- The first grammatical fault of expressions between brackets. -/
def grammarFaults? : List Expr → Option Fault
  | [] => none
  | e :: es => grammarFault? true e <|> grammarFaults? es

end

/-- What an expression is called when it cannot be assigned to. -/
def targetKind? : Expr → Option String
  | .name _ | .attr .. | .index .. => none
  | .call .. => some "function call"
  | .number _ | .text _ => some "literal"
  | .list _ => none
  | _ => some "expression"

/-- Whether the text of an expression begins with a list. -/
def beginsWithList : Expr → Bool
  | .list _ => true
  | .binary _ l _ => beginsWithList l
  | _ => false

/-- The grammatical fault of an assignment. -/
def assignFault? (t e : Expr) : Option Fault :=
  let value := grammarFault? false e
  grammarFault? false t <|>
    match targetKind? t with
    | none => value
    | some k =>
      if beginsWithList t then some (.target k false) else value <|> some (.target k true)

/-- The grammatical fault of an augmented assignment. -/
def augmentFault? (t e : Expr) : Option Fault :=
  grammarFault? false t <|> grammarFault? false e <|> (targetKind? t).map .augmented

/-- The grammatical fault of a value that may be absent. -/
def valueFault? : Option Expr → Option Fault
  | none => none
  | some e => grammarFault? false e

mutual

/-- The first grammatical fault of a statement. -/
def Stmt.grammarFault? : Stmt → Option Fault
  | .expr e => Code.grammarFault? false e
  | .assign t e => assignFault? t e
  | .augment t _ e => augmentFault? t e
  | .ret e => valueFault? e
  | .raise e => valueFault? e
  | .ite c b t => Code.grammarFault? false c <|> Stmt.grammarFaults? b <|> t.grammarFault?
  | .while c b => Code.grammarFault? false c <|> Stmt.grammarFaults? b
  | .forIn _ e b => Code.grammarFault? false e <|> Stmt.grammarFaults? b
  | .attempt b hs none => Stmt.grammarFaults? b <|> Handler.grammarFaults? hs
  | .attempt b hs (some f) =>
    Stmt.grammarFaults? b <|> Handler.grammarFaults? hs <|> Stmt.grammarFaults? f
  | .pass | .brk | .cont => none

/-- The first grammatical fault of statements. -/
def Stmt.grammarFaults? : List Stmt → Option Fault
  | [] => none
  | s :: ss => s.grammarFault? <|> Stmt.grammarFaults? ss

/-- The first grammatical fault of the rest of a conditional. -/
def Tail.grammarFault? : Tail → Option Fault
  | .none => none
  | .otherwise b => Stmt.grammarFaults? b
  | .elif c b t => Code.grammarFault? false c <|> Stmt.grammarFaults? b <|> t.grammarFault?

/-- The first grammatical fault of handlers. -/
def Handler.grammarFaults? : List Handler → Option Fault
  | [] => none
  | .mk _ _ b :: hs => Stmt.grammarFaults? b <|> Handler.grammarFaults? hs

end

/-- The first grammatical fault of a class. -/
def Class.grammarFault? (c : Class) : Option Fault :=
  (c.functions.findSome? fun f => Stmt.grammarFaults? f.body)
    <|> c.fields.findSome? fun f => valueFault? (some f.2)

/-! ## Parameters -/

/-- The first parameter whose name an earlier one has, as names of a class. -/
def repeatedParam? (cls : String) (seen : List String) : List Param → Option String
  | [] => none
  | p :: ps =>
    let x := privateName cls p.name
    if seen.contains x then some p.name else repeatedParam? cls (x :: seen) ps

/-- The first function of a class with two parameters of one name. -/
def Class.paramFault? (c : Class) : Option Fault :=
  c.functions.findSome? fun f => (repeatedParam? c.name [] f.params).map .parameter

/-! ## Jumps and names -/

/-- The name that cannot be assigned. -/
def constantName : String := "__debug__"

/-- The fault of assigning a name. -/
def storeFault? (name : String) : Option Fault :=
  if name == constantName then some .constantName else none

/-- The fault of assigning to a target. -/
def targetFault? : Expr → Option Fault
  | .name x => storeFault? x
  | .attr _ x => storeFault? x
  | _ => none

/-- The fault of changing the old value of a target; attributes are not looked at. -/
def changeFault? : Expr → Option Fault
  | .name x => storeFault? x
  | _ => none

/-- What a jump leaves: a loop, or a block with a cleanup, whose fault the jump comes upon. -/
inductive Surround
  | loop
  | cleanup (fault : Option Fault)

/-- The fault of a jump to the innermost loop, where `missing` is the fault if there is none. -/
def jumpFault? (missing : Fault) : List Surround → Option Fault
  | [] => some missing
  | .loop :: _ => none
  | .cleanup (some f) :: _ => some f
  | .cleanup none :: rest => jumpFault? missing rest

/-- The fault of leaving the function. -/
def leaveFault? : List Surround → Option Fault
  | [] => none
  | .cleanup (some f) :: _ => some f
  | _ :: rest => leaveFault? rest

/-- The fault of the name of what is caught. -/
def catchFault? : Option String → Option Fault
  | none => none
  | some x => storeFault? x

mutual

/-- The first fault of the jumps and names of a statement. -/
def Stmt.jumpFault? (around : List Surround) : Stmt → Option Fault
  | .assign t _ => targetFault? t
  | .augment t _ _ => changeFault? t
  | .ret _ => leaveFault? around
  | .brk => Code.jumpFault? .breakOutside around
  | .cont => Code.jumpFault? .continueOutside around
  | .ite _ b t => Stmt.jumpFaults? around b <|> t.jumpFault? around
  | .while _ b => Stmt.jumpFaults? (.loop :: around) b
  | .forIn x _ b => storeFault? x <|> Stmt.jumpFaults? (.loop :: around) b
  | .attempt b hs none => Stmt.jumpFaults? around b <|> Handler.jumpFaults? around hs
  | .attempt b hs (some f) =>
    let cleanup := Stmt.jumpFaults? around f
    Stmt.jumpFaults? (.cleanup cleanup :: around) b
      <|> Handler.jumpFaults? (.cleanup cleanup :: around) hs <|> cleanup
  | .pass | .expr _ | .raise _ => none

/-- The first fault of the jumps and names of statements. -/
def Stmt.jumpFaults? (around : List Surround) : List Stmt → Option Fault
  | [] => none
  | s :: ss => s.jumpFault? around <|> Stmt.jumpFaults? around ss

/-- The first fault of the jumps and names of the rest of a conditional. -/
def Tail.jumpFault? (around : List Surround) : Tail → Option Fault
  | .none => none
  | .otherwise b => Stmt.jumpFaults? around b
  | .elif _ b t => Stmt.jumpFaults? around b <|> t.jumpFault? around

/-- The first fault of the jumps and names of handlers. -/
def Handler.jumpFaults? (around : List Surround) : List Handler → Option Fault
  | [] => none
  | .mk _ x b :: hs =>
    catchFault? x <|> Stmt.jumpFaults? around b <|> Handler.jumpFaults? around hs

end

/-- The first fault of the jumps and names of a function. -/
def Function.jumpFault? (f : Function) : Option Fault :=
  (f.params.findSome? fun p => storeFault? p.name) <|> Stmt.jumpFaults? [] f.body
    <|> storeFault? f.name

/-- The first fault of the jumps and names of a class. -/
def Class.jumpFault? (c : Class) : Option Fault :=
  (c.functions.findSome? Function.jumpFault?) <|> (c.fields.findSome? fun f => storeFault? f.1)
    <|> storeFault? c.name

/-! ## Classes -/

/-- The first fault of a class. -/
def Class.fault? (c : Class) : Option Fault :=
  wordFaults? c.exprs <|> c.grammarFault? <|> c.paramFault? <|> c.jumpFault?

/-- Whether the text of a class holds a null character, which no code can hold. -/
def Class.hasNull (c : Class) : Bool := c.print.toList.contains '\x00'

end BraceScript.Code
