import BraceScript.Code.Text
import BraceScript.Diagnostic
import BraceScript.Number.Limit
import BraceScript.Lowering.Leaves
import BraceScript.Lowering.Stmt

/-!
# Classes to code

`lowerFile` gives the code of every class of a file and the problems of the file. A class
becomes its methods in order, then an initialiser made of the constructor and the instance fields,
then its static fields. Problems come in the order in which the members are visited: first those
of the names of all members, then those inside each member.

A number with more digits than can be converted stops the work on its file: the problems found
before it stay, and no class of the file is kept.
-/

namespace BraceScript.Lowering

open Syntax

/-- A class with the code generated for it. -/
structure TypeDecl where
  name : String
  base : Option String
  code : Code.Class
  sourcePath : String
  position : Position

/-- The identifier of the class in generated code. -/
def TypeDecl.ident (d : TypeDecl) : String := Code.ident d.name

/-- The generated text. -/
def TypeDecl.text (d : TypeDecl) : String := d.code.print

/-! ## Problems -/

/-- The name of the member that all constructors of a class are. -/
def initName : String := "__init__"

/-- What a member is known by: its key among the members of its class, its shown name, and the
token of its name. -/
def memberKey (type : String) : Member → String × String × Token
  | .field _ d => (d.name.text, d.name.text, d.name)
  | .method _ _ n _ _ => (n.text, n.text, n)
  | .constructor _ n _ _ => (initName, type, n)

/-- The members whose key an earlier member has: their shown name and token. -/
def repeatedMembers (type : String) (seen : List String) : List Member → List (String × Token)
  | [] => []
  | m :: ms =>
    let (key, shown, token) := memberKey type m
    let rest := repeatedMembers type (key :: seen) ms
    if seen.contains key then (shown, token) :: rest else rest

/-- Something that the check of a member comes upon. -/
inductive Finding
  | problem (d : Diagnostic)
  /-- A number with too many digits, which ends the work on the file. -/
  | hugeNumber (digits : Nat)

/-- What is wrong with a leaf in a scope. -/
def leafFinding (file : String) (s : Scope) : Leaf → Option Finding
  | .name t =>
    if s.meaning t.text = .instanceMember && s.isStatic then
      some (.problem ((Problem.instanceRequired s.names.type t.text).at file t.position))
    else none
  | .number t =>
    if t.text.toList.contains '.' || t.text.length ≤ Number.digitLimit then none
    else some (.hugeNumber t.text.length)

/-- The scope of a method or constructor. -/
def bodyScope (names : ClassNames) (isStatic : Bool) (params : List Param) (body : List Stmt) :
    Scope :=
  ⟨names, isStatic, memberVariables params body, false⟩

/-- The scope of the value of a field. -/
def fieldScope (names : ClassNames) (isStatic : Bool) : Scope := ⟨names, isStatic, [], isStatic⟩

/-- What is wrong inside a member. Only the first constructor of a class is looked at. -/
def memberFindings (file : String) (names : ClassNames) (isFirstConstructor : Bool) :
    Member → List Finding
  | .field ms d =>
    (optionLeaves d.value).filterMap (leafFinding file (fieldScope names (isStatic ms)))
  | .method ms _ _ ps b =>
    (bodyLeaves b).filterMap (leafFinding file (bodyScope names (isStatic ms) ps b))
  | .constructor _ n ps b =>
    if isFirstConstructor then
      (if n.text = names.type then []
        else [.problem (Problem.missingReturnType.at file n.position)])
        ++ (bodyLeaves b).filterMap (leafFinding file (bodyScope names false ps b))
    else []

/-- Whether a member is a constructor. -/
def isConstructor : Member → Bool
  | .constructor .. => true
  | _ => false

/-- What is wrong inside the members of a class. -/
def membersFindings (file : String) (names : ClassNames) (seenConstructor : Bool) :
    List Member → List Finding
  | [] => []
  | m :: ms => memberFindings file names (!seenConstructor) m
      ++ membersFindings file names (seenConstructor || isConstructor m) ms

/-- What is wrong with a class. -/
def classFindings (file : String) (c : ClassDecl) : List Finding :=
  (repeatedMembers c.name.text [] c.members).map (fun (shown, t) =>
    .problem ((Problem.duplicateMember c.name.text shown).at file t.position))
    ++ membersFindings file (ClassNames.of c) false c.members

/-! ## Code -/

/-- The parameters of generated functions. -/
def paramsCode (ps : List Param) : List Code.Param :=
  ps.map fun p => ⟨Code.ident p.name.text, hint p.type.name.text p.type.rank⟩

/-- The parameter for the current object. -/
def selfParam : Code.Param := ⟨Code.selfName, none⟩

/-- The code of a class in progress: what its members were lowered to, in order. -/
structure Pieces where
  methods : List Code.Function
  constructor? : Option (List Code.Param × List Code.Stmt)
  instanceFields : List Code.Stmt
  staticFields : List (String × Code.Expr)

/-- The value of a field. -/
def fieldCode (s : Scope) (d : Declaration) : Code.Expr :=
  match d.value with
  | some e => codeOf s e
  | none => defaultValue d.type.name.text d.type.rank

/-- Adds the code of a member; `n` is the number of flags used before. -/
def memberCodeOf (names : ClassNames) (p : Pieces) (n : Nat) : Member → Pieces × Nat
  | .field ms d =>
    let value := fieldCode (fieldScope names (isStatic ms)) d
    let x := Code.ident d.name.text
    if isStatic ms then ({ p with staticFields := p.staticFields ++ [(x, value)] }, n)
    else
      let set := Code.Stmt.assign (.attr (.name Code.selfName) x) value
      ({ p with instanceFields := p.instanceFields ++ [set] }, n)
  | .method ms _ x ps b =>
    let body := bodyCode (bodyScope names (isStatic ms) ps b) n b
    let params := paramsCode ps
    let f : Code.Function := ⟨Code.ident x.text, if isStatic ms then params else selfParam :: params,
      isStatic ms, blockCode body.1⟩
    ({ p with methods := p.methods ++ [f] }, body.2)
  | .constructor _ _ ps b =>
    if p.constructor?.isSome then (p, n)
    else
      let body := bodyCode (bodyScope names false ps b) n b
      ({ p with constructor? := some (paramsCode ps, blockCode body.1) }, body.2)

/-- The code of the members of a class. -/
def membersCode (names : ClassNames) (p : Pieces) (n : Nat) : List Member → Pieces × Nat
  | [] => (p, n)
  | m :: ms =>
    let r := memberCodeOf names p n m
    membersCode names r.1 r.2 ms

/-- The call of the initialiser of the base class. -/
def baseInit : Code.Stmt := .expr (.call (.attr (.apply "super" []) initName) [])

/-- Whether a body does nothing. -/
def isPass : List Code.Stmt → Bool
  | [.pass] => true
  | _ => false

/-- The initialiser: that of the base class, then the fields, then the constructor. -/
def initCode (hasBase : Bool) (p : Pieces) : List Code.Function :=
  if p.constructor?.isNone && p.instanceFields.isEmpty then []
  else
    let (params, body) := p.constructor?.getD ([], [.pass])
    let lines := (if hasBase then [baseInit] else []) ++ p.instanceFields
    let body := if isPass body && !lines.isEmpty then lines else lines ++ body
    [⟨initName, selfParam :: params, false, body⟩]

/-- The code of a class; `n` is the number of flags used before. -/
def classCode (c : ClassDecl) (n : Nat) : Code.Class × Nat :=
  let (p, n) := membersCode (ClassNames.of c) ⟨[], none, [], []⟩ n c.members
  (⟨Code.ident c.name.text, c.base.map fun b => Code.ident b.text,
    p.methods ++ initCode c.base.isSome p, p.staticFields⟩, n)

/-- The classes of a file with their code; `n` is the number of flags used before. -/
def classesCode (file : String) (n : Nat) : List ClassDecl → List TypeDecl
  | [] => []
  | c :: cs =>
    let (code, n) := classCode c n
    ⟨c.name.text, c.base.map (·.text), code, file, c.name.position⟩ :: classesCode file n cs

/-! ## Files -/

/-- The problems up to the first huge number, and whether there is none. -/
def settleFindings (file : String) : List Finding → List Diagnostic × Bool
  | [] => ([], true)
  | .problem d :: fs =>
    let r := settleFindings file fs
    (d :: r.1, r.2)
  | .hugeNumber n :: _ => ([(Problem.generation (Number.tooLongToRead n)).at file .start], false)

/-- The classes of a file with their code, and the problems of the file. -/
def lowerFile (file : String) (f : SourceFile) : List TypeDecl × List Diagnostic :=
  let (problems, complete) := settleFindings file (f.classes.flatMap (classFindings file))
  (if complete then classesCode file 0 f.classes else [], problems)

end BraceScript.Lowering
