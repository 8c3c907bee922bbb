import BraceScript.Syntax.Lexer
import BraceScript.Syntax.Tree

/-!
# From tokens to trees

The parser is a machine that reads one token at a time. `State.shift` gives the state after a
token, or `none` when no file goes on that way; `parseTokens` folds it over the tokens and
`State.finish` accepts at the end of a file. Since every state can be completed, the first token
that `shift` refuses is the first token that no file could have at its place.

An expression in progress is kept as a stack of `Pending` parts around the operand being read,
and as a `Use`, which says what the expression is for. Statements in progress are kept in a
`Nest`: the statements read so far in the innermost open block, and the blocks around it.
-/

namespace BraceScript.Syntax

/-! ## What is in progress -/

/-- A file in progress; lists are in reverse. -/
structure OpenFile where
  usings : List (List Token)
  classes : List ClassDecl

/-- A class in progress; its members are in reverse. -/
structure OpenClass where
  file : OpenFile
  head : ClassHead
  members : List Member

/-- The class with one more member. -/
def OpenClass.add (c : OpenClass) (m : Member) : OpenClass :=
  ⟨c.file, c.head, m :: c.members⟩

/-- A member with a body, before its body. -/
inductive MemberHead
  | method (modifiers : List Token) (type : TypeRef) (name : Token)
  | constructor (modifiers : List Token) (name : Token)

/-- The member with a given head, parameters and body. -/
def MemberHead.complete (params : List Param) (body : List Stmt) : MemberHead → Member
  | .method ms t n => .method ms t n params body
  | .constructor ms n => .constructor ms n params body

/-- A conditional in progress: the branches read so far, in reverse. -/
abbrev Branches := List (Expr × List Stmt)

/-- The conditional whose last branch is followed by `otherwise`. -/
def Branches.complete : Branches → Else → Option Stmt
  | [], _ => none
  | [(c, b)], r => some (.ite c b r)
  | (c, b) :: bs, r => Branches.complete bs (.elseIf c b r)

/-- What an open block belongs to. -/
inductive Role
  | plain
  | branch (before : Branches) (condition : Expr)
  | otherwise (branches : Branches)
  | whileBody (condition : Expr)
  | forBody (init : Option ForInit) (condition : Option Expr) (step : Option ForStep)
  | foreachBody (type : TypeRef) (name : Token) (items : Expr)
  | tryBody
  | catchBody (body : List Stmt) (handlers : List Handler) (filter : Option CatchFilter)
  | finallyBody (body : List Stmt) (handlers : List Handler)

/-- The blocks around the place being read. `done` holds the statements of the innermost open
block in reverse; each entry of `outer` is the role of an open block with the statements before
it in the block around. -/
structure Nest where
  cls : OpenClass
  head : MemberHead
  params : List Param
  done : List Stmt
  outer : List (Role × List Stmt)

/-- The nest with one more statement. -/
def Nest.add (n : Nest) (s : Stmt) : Nest :=
  ⟨n.cls, n.head, n.params, s :: n.done, n.outer⟩

/-- The nest with one more open block. -/
def Nest.open (n : Nest) (r : Role) : Nest :=
  ⟨n.cls, n.head, n.params, [], (r, n.done) :: n.outer⟩

/-- A bracketed list of expressions in progress. -/
inductive Listing
  | call (callee : Expr)
  | object (type : Token)
  | elements (type : Token)

/-- The sign that ends a listing. -/
def Listing.closer : Listing → Sign
  | .call _ | .object _ => .closeParen
  | .elements _ => .closeBrace

/-- The expression of a complete listing. -/
def Listing.complete (items : List Expr) : Listing → Expr
  | .call f => .call f items
  | .object t => .newObject t items
  | .elements t => .elements t items

/-- A part of an expression that waits for the operand being read. -/
inductive Pending
  | unary (op : UnaryOp)
  | binary (op : BinaryOp) (left : Expr)
  | whenTrue (condition : Expr)
  | whenFalse (condition value : Expr)
  | group
  | index (target : Expr)
  | size (type : Token)
  | listing (l : Listing) (done : List Expr)

/-- What an expression is for. -/
inductive Use
  | field (c : OpenClass) (modifiers : List Token) (type : TypeRef) (name : Token)
  | declare (n : Nest) (type : TypeRef) (name : Token)
  | assign (n : Nest) (target : Target) (op : AssignOp)
  | statement (n : Nest)
  | ret (n : Nest)
  | throw (n : Nest)
  | condition (n : Nest) (before : Branches)
  | whileCondition (n : Nest)
  | items (n : Nest) (type : TypeRef) (name : Token)
  | forTarget (n : Nest)
  | forDeclare (n : Nest) (type : TypeRef) (name : Token)
  | forAssign (n : Nest) (target : Target) (op : AssignOp)
  | forCondition (n : Nest) (init : Option ForInit)
  | forStep (n : Nest) (init : Option ForInit) (condition : Option Expr)
  | stepAssign (n : Nest) (init : Option ForInit) (condition : Option Expr) (target : Target)
      (op : AssignOp)

/-- What a type is for. -/
inductive TypeUse
  | member (c : OpenClass) (modifiers : List Token)
  | param (c : OpenClass) (head : MemberHead) (done : List Param)
  | declare (n : Nest)
  | forDeclare (n : Nest)
  | foreach (n : Nest)

/-- Where a statement or the head of a `for` loop begins. -/
inductive Start
  | statement (n : Nest)
  | forHead (n : Nest)

/-- The use of an expression that begins there. -/
def Start.use : Start → Use
  | .statement n => .statement n
  | .forHead n => .forTarget n

/-- The use of a type that begins there. -/
def Start.typeUse : Start → TypeUse
  | .statement n => .declare n
  | .forHead n => .forDeclare n

/-- The state of the machine: what was read, and what may come next. -/
inductive State
  /-- Between classes, after some modifiers. -/
  | file (f : OpenFile) (modifiers : List Token)
  /-- After `using` or a point in a qualified name. -/
  | usingName (f : OpenFile) (names : List Token)
  /-- After a name on a `using` line. -/
  | usingRest (f : OpenFile) (names : List Token)
  /-- After `class`. -/
  | className (f : OpenFile) (modifiers : List Token)
  /-- After the name of a class. -/
  | classRest (f : OpenFile) (modifiers : List Token) (name : Token)
  /-- After the colon in the head of a class. -/
  | baseName (f : OpenFile) (modifiers : List Token) (name : Token)
  /-- After a complete head of a class. -/
  | classOpen (f : OpenFile) (head : ClassHead)
  /-- Between members, after some modifiers. -/
  | members (c : OpenClass) (modifiers : List Token)
  /-- After the first name of a member. -/
  | memberName (c : OpenClass) (modifiers : List Token) (first : Token)
  /-- After a type. -/
  | typed (use : TypeUse) (type : TypeRef)
  /-- After `[` of a type. -/
  | rank (use : TypeUse) (type : TypeRef)
  /-- After the type and the name of a member. -/
  | memberRest (c : OpenClass) (modifiers : List Token) (type : TypeRef) (name : Token)
  /-- After `(` of a parameter list. -/
  | params (c : OpenClass) (head : MemberHead)
  /-- After a comma of a parameter list. -/
  | nextParam (c : OpenClass) (head : MemberHead) (done : List Param)
  /-- After a parameter. -/
  | paramRest (c : OpenClass) (head : MemberHead) (done : List Param)
  /-- After a parameter list. -/
  | body (c : OpenClass) (head : MemberHead) (params : List Param)
  /-- Between statements. -/
  | statement (n : Nest)
  /-- After a name at the beginning of a statement. -/
  | startName (s : Start) (first : Token)
  /-- After a name and `[` at the beginning of a statement. -/
  | startBracket (s : Start) (first : Token)
  /-- After the type and the name of a variable. -/
  | declared (s : Start) (type : TypeRef) (name : Token)
  /-- Before an operand. -/
  | operand (use : Use) (stack : List Pending)
  /-- After an operand. -/
  | after (use : Use) (stack : List Pending) (e : Expr)
  /-- After a point. -/
  | memberOf (use : Use) (stack : List Pending) (e : Expr)
  /-- After the opening sign of a listing. -/
  | listing (use : Use) (stack : List Pending) (l : Listing)
  /-- After `new`. -/
  | newType (use : Use) (stack : List Pending)
  /-- After `new` and a type. -/
  | newRest (use : Use) (stack : List Pending) (type : Token)
  /-- After `new`, a type and `[`. -/
  | newBracket (use : Use) (stack : List Pending) (type : Token)
  /-- After `new`, a type and `[]`. -/
  | newElements (use : Use) (stack : List Pending) (type : Token)
  /-- After a statement that lacks its semicolon only. -/
  | semicolon (n : Nest) (s : Stmt)
  /-- After `return`. -/
  | ret (n : Nest)
  /-- After `throw`. -/
  | throw (n : Nest)
  /-- After `if`. -/
  | conditionOpen (n : Nest) (before : Branches)
  /-- After `while`. -/
  | whileOpen (n : Nest)
  /-- After `for`. -/
  | forOpen (n : Nest)
  /-- After `for (`. -/
  | forInit (n : Nest)
  /-- After the first semicolon of a `for` head. -/
  | forCondition (n : Nest) (init : Option ForInit)
  /-- After the second semicolon of a `for` head. -/
  | forStep (n : Nest) (init : Option ForInit) (condition : Option Expr)
  /-- After the last part of a `for` head. -/
  | forClose (n : Nest) (init : Option ForInit) (condition : Option Expr) (step : ForStep)
  /-- After `foreach`. -/
  | foreachOpen (n : Nest)
  /-- After `foreach (`. -/
  | foreachType (n : Nest)
  /-- After the type and the name in a `foreach` head. -/
  | foreachIn (n : Nest) (type : TypeRef) (name : Token)
  /-- Before the opening brace of a block. -/
  | blockOpen (n : Nest) (r : Role)
  /-- After a branch of a conditional. -/
  | afterBranch (n : Nest) (branches : Branches)
  /-- After `else`. -/
  | afterElse (n : Nest) (branches : Branches)
  /-- After the block and the handlers of a guarded statement. -/
  | afterTry (n : Nest) (body : List Stmt) (handlers : List Handler)
  /-- After `catch`. -/
  | catchOpen (n : Nest) (body : List Stmt) (handlers : List Handler)
  /-- After `catch (`. -/
  | catchType (n : Nest) (body : List Stmt) (handlers : List Handler)
  /-- After the type in a filter. -/
  | catchName (n : Nest) (body : List Stmt) (handlers : List Handler) (type : Token)
  /-- After the name in a filter. -/
  | catchClose (n : Nest) (body : List Stmt) (handlers : List Handler) (filter : CatchFilter)

/-! ## Kinds of tokens -/

/-- Whether a keyword is a modifier. -/
def isModifier : Kind → Bool
  | .word .kwPublic | .word .kwPrivate | .word .kwProtected | .word .kwInternal
  | .word .kwStatic => true
  | _ => false

/-- The binary operator of a sign. -/
def binaryOp? : Kind → Option BinaryOp
  | .sign .orElse => some .or
  | .sign .andAlso => some .and
  | .sign .equal => some .eq
  | .sign .unequal => some .ne
  | .sign .less => some .lt
  | .sign .atMost => some .le
  | .sign .greater => some .gt
  | .sign .atLeast => some .ge
  | .sign .plus => some .add
  | .sign .minus => some .sub
  | .sign .times => some .mul
  | .sign .over => some .div
  | .sign .mod => some .mod
  | _ => none

/-- The unary operator of a sign. -/
def unaryOp? : Kind → Option UnaryOp
  | .sign .bang => some .not
  | .sign .minus => some .neg
  | _ => none

/-- The assignment of a sign. -/
def assignOp? : Kind → Option AssignOp
  | .sign .assign => some .set
  | .sign .plusAssign => some .add
  | .sign .minusAssign => some .sub
  | .sign .timesAssign => some .mul
  | .sign .overAssign => some .div
  | .sign .modAssign => some .mod
  | _ => none

/-- The step of a sign. -/
def stepOp? : Kind → Option StepOp
  | .sign .increment => some .increment
  | .sign .decrement => some .decrement
  | _ => none

/-- An operand that is one token. -/
def atom? (t : Token) : Option Expr :=
  match t.kind with
  | .name => some (.name t)
  | .number => some (.number t)
  | .string => some (.string t)
  | .char => some (.char t)
  | .word .kwTrue => some .true
  | .word .kwFalse => some .false
  | .word .kwNull => some .null
  | .word .kwThis => some .this
  | _ => none

/-- An expression as a target. -/
def Expr.target? : Expr → Option Target
  | .name t => some (.name t)
  | .member e n => some (.member e n)
  | .index e i => some (.index e i)
  | _ => none

/-! ## Expressions -/

/-- Completes the operators on the stack that bind at least as tightly as `level`. -/
def reduce (level : Nat) : List Pending → Expr → List Pending × Expr
  | .unary op :: st, e => reduce level st (.unary op e)
  | .binary op l :: st, e =>
    if level ≤ op.level then reduce level st (.binary op l e) else (.binary op l :: st, e)
  | st, e => (st, e)

/-- Completes every operator and choice up to the nearest bracket or open choice. -/
def settle : List Pending → Expr → List Pending × Expr
  | .unary op :: st, e => settle st (.unary op e)
  | .binary op l :: st, e => settle st (.binary op l e)
  | .whenFalse c a :: st, e => settle st (.choice c a e)
  | st, e => (st, e)

/-- The sign that ends an expression of this use. -/
def Use.closer : Use → Sign
  | .condition .. | .whileCondition .. | .items .. | .forStep .. | .stepAssign .. => .closeParen
  | _ => .semicolon

/-- The state after an expression of this use and the sign that ends it; `none` when the
expression alone is not enough. -/
def Use.complete (e : Expr) : Use → Option State
  | .field c ms t n => some (.members (c.add (.field ms ⟨t, n, some e⟩)) [])
  | .declare n t x => some (.statement (n.add (.declare ⟨t, x, some e⟩)))
  | .assign n t op => some (.statement (n.add (.assign t op e)))
  | .statement n => some (.statement (n.add (.expr e)))
  | .ret n => some (.statement (n.add (.ret (some e))))
  | .throw n => some (.statement (n.add (.throw (some e))))
  | .condition n bs => some (.blockOpen n (.branch bs e))
  | .whileCondition n => some (.blockOpen n (.whileBody e))
  | .items n t x => some (.blockOpen n (.foreachBody t x e))
  | .forTarget _ => none
  | .forDeclare n t x => some (.forCondition n (some (.declare ⟨t, x, some e⟩)))
  | .forAssign n t op => some (.forCondition n (some (.assign t op e)))
  | .forCondition n i => some (.forStep n i (some e))
  | .forStep n i c => some (.blockOpen n (.forBody i c (some (.expr e))))
  | .stepAssign n i c t op => some (.blockOpen n (.forBody i c (some (.assign t op e))))

/-- The use of the value when an expression of this use turns out to be a target. -/
def Use.assignTo (t : Target) (op : AssignOp) : Use → Option Use
  | .statement n => some (.assign n t op)
  | .forTarget n => some (.forAssign n t op)
  | .forStep n i c => some (.stepAssign n i c t op)
  | _ => none

/-- The state when an expression of this use turns out to be stepped by one. -/
def Use.stepOf (t : Target) (op : StepOp) : Use → Option State
  | .statement n => some (.semicolon n (.step t op))
  | .forStep n i c => some (.forClose n i c (.step t op))
  | _ => none

/-- Whether an expression of this use has to be a target. -/
def Use.isTarget : Use → Bool
  | .forTarget _ => true
  | _ => false

/-- The state after the first token of an operand. -/
def shiftOperand (use : Use) (st : List Pending) (t : Token) : Option State :=
  match atom? t with
  | some e => some (.after use st e)
  | none =>
    match t.kind, unaryOp? t.kind with
    | .sign .openParen, _ => some (.operand use (.group :: st))
    | .word .kwNew, _ => some (.newType use st)
    | _, some op => if use.isTarget && st.isEmpty then none else some (.operand use (.unary op :: st))
    | _, none => none

/-- The state after a closing sign, for a settled stack. -/
def shiftCloser (use : Use) (s : Sign) : List Pending × Expr → Option State
  | ([], e) => if s = use.closer then use.complete e else none
  | (.group :: st, e) => if s = .closeParen then some (.after use st (.group e)) else none
  | (.index x :: st, e) => if s = .closeBracket then some (.after use st (.index x e)) else none
  | (.size t :: st, e) => if s = .closeBracket then some (.after use st (.newArray t e)) else none
  | (.listing l es :: st, e) =>
    if s = .comma then some (.operand use (.listing l (e :: es) :: st))
    else if s = l.closer then some (.after use st (l.complete (e :: es).reverse))
    else none
  | (.whenTrue c :: st, e) =>
    if s = .colon then some (.operand use (.whenFalse c e :: st)) else none
  | _ => none

/-- The state after a token that follows an operand. -/
def shiftAfter (use : Use) (st : List Pending) (e : Expr) (t : Token) : Option State :=
  match t.kind with
  | .sign .dot => some (.memberOf use st e)
  | .sign .openParen => some (.listing use st (.call e))
  | .sign .openBracket => some (.operand use (.index e :: st))
  | .sign .question =>
    if use.isTarget && st.isEmpty then none
    else
      let r := reduce 0 st e
      some (.operand use (.whenTrue r.2 :: r.1))
  | k =>
    match binaryOp? k with
    | some op =>
      if use.isTarget && st.isEmpty then none
      else
        let r := reduce op.level st e
        some (.operand use (.binary op r.2 :: r.1))
    | none =>
      match assignOp? k, stepOp? k, st, e.target?, k with
      | some op, _, [], some target, _ => (use.assignTo target op).map (.operand · [])
      | _, some op, [], some target, _ => use.stepOf target op
      | none, none, st, _, .sign s => shiftCloser use s (settle st e)
      | _, _, _, _, _ => none

/-! ## Statements -/

/-- The state after the closing brace of the innermost block. -/
def Nest.close (n : Nest) : State :=
  match n.outer with
  | [] => .members (n.cls.add (n.head.complete n.params n.done.reverse)) []
  | (r, done) :: outer =>
    let body := n.done.reverse
    let n : Nest := ⟨n.cls, n.head, n.params, done, outer⟩
    match r with
    | .plain => .statement (n.add (.block body))
    | .branch bs c => .afterBranch n ((c, body) :: bs)
    | .otherwise bs =>
      match Branches.complete bs (.block body) with
      | some s => .statement (n.add s)
      | none => .statement n
    | .whileBody c => .statement (n.add (.while c body))
    | .forBody i c s => .statement (n.add (.for i c s body))
    | .foreachBody t x e => .statement (n.add (.foreach t x e body))
    | .tryBody => .afterTry n body []
    | .catchBody b hs f => .afterTry n b (hs ++ [.mk f body])
    | .finallyBody b hs => .statement (n.add (.attempt b hs (some body)))

/-- The state after the first token of a statement, or after the brace that ends a block. -/
def shiftStatement (n : Nest) (t : Token) : Option State :=
  match t.kind with
  | .name => some (.startName (.statement n) t)
  | .sign .openBrace => some (.statement (n.open .plain))
  | .sign .closeBrace => some n.close
  | .word .kwIf => some (.conditionOpen n [])
  | .word .kwWhile => some (.whileOpen n)
  | .word .kwFor => some (.forOpen n)
  | .word .kwForeach => some (.foreachOpen n)
  | .word .kwReturn => some (.ret n)
  | .word .kwThrow => some (.throw n)
  | .word .kwBreak => some (.semicolon n .brk)
  | .word .kwContinue => some (.semicolon n .cont)
  | .word .kwTry => some (.blockOpen n .tryBody)
  | _ => shiftOperand (.statement n) [] t

/-- The state after a declared variable that has no value. -/
def Start.declareOnly (t : TypeRef) (x : Token) : Start → State
  | .statement n => .statement (n.add (.declare ⟨t, x, none⟩))
  | .forHead n => .forCondition n (some (.declare ⟨t, x, none⟩))

/-- The use of the value of a declared variable. -/
def Start.valueUse (t : TypeRef) (x : Token) : Start → Use
  | .statement n => .declare n t x
  | .forHead n => .forDeclare n t x

/-- The state after a type and a name. -/
def TypeUse.named (t : TypeRef) (x : Token) : TypeUse → State
  | .member c ms => .memberRest c ms t x
  | .param c h ps => .paramRest c h (⟨t, x⟩ :: ps)
  | .declare n => .declared (.statement n) t x
  | .forDeclare n => .declared (.forHead n) t x
  | .foreach n => .foreachIn n t x

/-! ## One token -/

/-- The state after one more token; `none` when no file goes on with it. -/
def State.shift (state : State) (t : Token) : Option State :=
  match state, t.kind with
  -- files and classes
  | .file f [], .word .kwUsing => if f.classes.isEmpty then some (.usingName f []) else none
  | .file f ms, .word .kwClass => some (.className f ms)
  | .file f ms, k => if isModifier k then some (.file f (ms ++ [t])) else none
  | .usingName f ns, .name => some (.usingRest f (ns ++ [t]))
  | .usingRest f ns, .sign .dot => some (.usingName f ns)
  | .usingRest f ns, .sign .semicolon => some (.file ⟨ns :: f.usings, f.classes⟩ [])
  | .className f ms, .name => some (.classRest f ms t)
  | .classRest f ms n, .sign .colon => some (.baseName f ms n)
  | .classRest f ms n, .sign .openBrace => some (.members ⟨f, ⟨ms, n, none⟩, []⟩ [])
  | .baseName f ms n, .name => some (.classOpen f ⟨ms, n, some t⟩)
  | .classOpen f h, .sign .openBrace => some (.members ⟨f, h, []⟩ [])
  -- members
  | .members c [], .sign .closeBrace =>
    some (.file ⟨c.file.usings, ⟨c.head, c.members.reverse⟩ :: c.file.classes⟩ [])
  | .members c ms, .name => some (.memberName c ms t)
  | .members c ms, k => if isModifier k then some (.members c (ms ++ [t])) else none
  | .memberName c ms n, .sign .openParen => some (.params c (.constructor ms n))
  | .memberName c ms n, .sign .openBracket => some (.rank (.member c ms) ⟨n, 0⟩)
  | .memberName c ms n, .name => some (.memberRest c ms ⟨n, 0⟩ t)
  | .typed u ty, .sign .openBracket => some (.rank u ty)
  | .typed u ty, .name => some (u.named ty t)
  | .rank u ty, .sign .closeBracket => some (.typed u ⟨ty.name, ty.rank + 1⟩)
  | .memberRest c ms ty n, .sign .openParen => some (.params c (.method ms ty n))
  | .memberRest c ms ty n, .sign .assign => some (.operand (.field c ms ty n) [])
  | .memberRest c ms ty n, .sign .semicolon =>
    some (.members (c.add (.field ms ⟨ty, n, none⟩)) [])
  | .params c h, .sign .closeParen => some (.body c h [])
  | .params c h, .name => some (.typed (.param c h []) ⟨t, 0⟩)
  | .nextParam c h ps, .name => some (.typed (.param c h ps) ⟨t, 0⟩)
  | .paramRest c h ps, .sign .comma => some (.nextParam c h ps)
  | .paramRest c h ps, .sign .closeParen => some (.body c h ps.reverse)
  | .body c h ps, .sign .openBrace => some (.statement ⟨c, h, ps, [], []⟩)
  -- statements
  | .statement n, _ => shiftStatement n t
  | .startName s n, .name => some (s.typeUse.named ⟨n, 0⟩ t)
  | .startName s n, .sign .openBracket => some (.startBracket s n)
  | .startName s n, _ => shiftAfter s.use [] (.name n) t
  | .startBracket s n, .sign .closeBracket => some (.typed s.typeUse ⟨n, 1⟩)
  | .startBracket s n, _ => shiftOperand s.use [.index (.name n)] t
  | .declared s ty x, .sign .assign => some (.operand (s.valueUse ty x) [])
  | .declared s ty x, .sign .semicolon => some (s.declareOnly ty x)
  | .semicolon n s, .sign .semicolon => some (.statement (n.add s))
  | .ret n, .sign .semicolon => some (.statement (n.add (.ret none)))
  | .ret n, _ => shiftOperand (.ret n) [] t
  | .throw n, .sign .semicolon => some (.statement (n.add (.throw none)))
  | .throw n, _ => shiftOperand (.throw n) [] t
  | .conditionOpen n bs, .sign .openParen => some (.operand (.condition n bs) [])
  | .whileOpen n, .sign .openParen => some (.operand (.whileCondition n) [])
  | .forOpen n, .sign .openParen => some (.forInit n)
  | .forInit n, .sign .semicolon => some (.forCondition n none)
  | .forInit n, .name => some (.startName (.forHead n) t)
  | .forInit n, _ => shiftOperand (.forTarget n) [] t
  | .forCondition n i, .sign .semicolon => some (.forStep n i none)
  | .forCondition n i, _ => shiftOperand (.forCondition n i) [] t
  | .forStep n i c, .sign .closeParen => some (.blockOpen n (.forBody i c none))
  | .forStep n i c, _ => shiftOperand (.forStep n i c) [] t
  | .forClose n i c s, .sign .closeParen => some (.blockOpen n (.forBody i c (some s)))
  | .foreachOpen n, .sign .openParen => some (.foreachType n)
  | .foreachType n, .name => some (.typed (.foreach n) ⟨t, 0⟩)
  | .foreachIn n ty x, .word .kwIn => some (.operand (.items n ty x) [])
  | .blockOpen n r, .sign .openBrace => some (.statement (n.open r))
  | .afterBranch n bs, .word .kwElse => some (.afterElse n bs)
  | .afterBranch n bs, _ => (Branches.complete bs .none).bind fun s => shiftStatement (n.add s) t
  | .afterElse n bs, .sign .openBrace => some (.statement (n.open (.otherwise bs)))
  | .afterElse n bs, .word .kwIf => some (.conditionOpen n bs)
  | .afterTry n b hs, .word .kwCatch => some (.catchOpen n b hs)
  | .afterTry n b hs, .word .kwFinally => some (.blockOpen n (.finallyBody b hs))
  | .afterTry _ _ [], _ => none
  | .afterTry n b (h :: hs), _ => shiftStatement (n.add (.attempt b (h :: hs) none)) t
  | .catchOpen n b hs, .sign .openParen => some (.catchType n b hs)
  | .catchOpen n b hs, .sign .openBrace => some (.statement (n.open (.catchBody b hs none)))
  | .catchType n b hs, .name => some (.catchName n b hs t)
  | .catchName n b hs ty, .name => some (.catchClose n b hs ⟨ty, some t⟩)
  | .catchName n b hs ty, .sign .closeParen =>
    some (.blockOpen n (.catchBody b hs (some ⟨ty, none⟩)))
  | .catchClose n b hs f, .sign .closeParen => some (.blockOpen n (.catchBody b hs (some f)))
  -- expressions
  | .operand u st, _ => shiftOperand u st t
  | .after u st e, _ => shiftAfter u st e t
  | .memberOf u st e, .name => some (.after u st (.member e t))
  | .listing u st l, k =>
    if k = .sign l.closer then some (.after u st (l.complete []))
    else shiftOperand u (.listing l [] :: st) t
  | .newType u st, .name => some (.newRest u st t)
  | .newRest u st ty, .sign .openParen => some (.listing u st (.object ty))
  | .newRest u st ty, .sign .openBracket => some (.newBracket u st ty)
  | .newBracket u st ty, .sign .closeBracket => some (.newElements u st ty)
  | .newBracket u st ty, _ => shiftOperand u (.size ty :: st) t
  | .newElements u st ty, .sign .openBrace => some (.listing u st (.elements ty))
  | _, _ => none

/-! ## Whole files -/

/-- The state before the first token. -/
def State.initial : State := .file ⟨[], []⟩ []

/-- The file that is complete in a state, if it is. -/
def State.finish : State → Option SourceFile
  | .file f [] => some ⟨f.usings.reverse, f.classes.reverse⟩
  | _ => none

/-- The state after some tokens, or the first token that no file has at its place. -/
def State.shifts : State → List Token → Except Token State
  | s, [] => .ok s
  | s, t :: ts =>
    match s.shift t with
    | none => .error t
    | some s => s.shifts ts

/-- Why a text is no source file. -/
inductive SyntaxError
  /-- A token that no file has at its place. -/
  | unexpected (token : Token)
  /-- A character that begins no token. -/
  | unknown (c : Char) (position : Position)
  /-- The text ends too early. -/
  | incomplete
  deriving DecidableEq, Repr

/-- Reads the tokens of a source file. -/
def parseTokens (ts : List Token) : Except SyntaxError SourceFile :=
  match State.initial.shifts ts with
  | .error t => .error (.unexpected t)
  | .ok s =>
    match s.finish with
    | some f => .ok f
    | none => .error .incomplete

/-- Reads a source file. A token that no file has at its place is reported before a character that
begins no token. -/
def parse (source : List Char) : Except SyntaxError SourceFile :=
  let r := scan source
  match r.ending with
  | .complete => parseTokens r.tokens
  | .unknown c p =>
    match State.initial.shifts r.tokens with
    | .error t => .error (.unexpected t)
    | .ok _ => .error (.unknown c p)

end BraceScript.Syntax
