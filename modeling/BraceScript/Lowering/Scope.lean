import BraceScript.Code.Ident
import BraceScript.Code.Basic
import BraceScript.Syntax.Tree

/-!
# What a bare name means

Inside a member a bare name is a variable of the member if the member declares one of that name
anywhere, else a static member of the class, else an instance member, else something global.
-/

namespace BraceScript.Lowering

open Syntax

/-- The names of the members of a class. -/
structure ClassNames where
  type : String
  statics : List String
  instances : List String

/-- Where a bare name stands. -/
structure Scope where
  names : ClassNames
  /-- Whether there is no current object. -/
  isStatic : Bool
  /-- The variables of the member. -/
  locals : List String
  /-- Whether the name stands in the value of a static field. -/
  inClassBody : Bool

/-- What a bare name can be. -/
inductive Meaning
  | variable | staticMember | instanceMember | global
  deriving DecidableEq, Repr

namespace Scope

/-- What a bare name is. -/
def meaning (s : Scope) (x : String) : Meaning :=
  if s.locals.contains x then .variable
  else if s.names.statics.contains x then .staticMember
  else if s.names.instances.contains x then .instanceMember
  else .global

/-- The global that a name which is no member stands for: one name is an alias. -/
def globalIdent (x : String) : String := if x == "string" then "String" else Code.ident x

/-- The code of a bare name. -/
def codeOf (s : Scope) (x : String) : Code.Expr :=
  match s.meaning x with
  | .staticMember =>
    if s.inClassBody then .name (Code.ident x)
    else .attr (.name (Code.ident s.names.type)) (Code.ident x)
  | .instanceMember => .attr (.name Code.selfName) (Code.ident x)
  | .variable | .global => .name (globalIdent x)

end Scope

/-! ## Members and variables -/

/-- Whether the modifiers make a member static. -/
def isStatic (modifiers : List Token) : Bool :=
  modifiers.any fun t => t.kind == .word .kwStatic

/-- The name of a field or method, with whether it is static. -/
def memberName? : Member → Option (String × Bool)
  | .field ms d => some (d.name.text, isStatic ms)
  | .method ms _ n _ _ => some (n.text, isStatic ms)
  | .constructor .. => none

/-- The names of the members of a class. -/
def ClassNames.of (c : ClassDecl) : ClassNames :=
  let names := c.members.filterMap memberName?
  ⟨c.name.text, (names.filter (·.2)).map (·.1), (names.filter (!·.2)).map (·.1)⟩

/-- The name that the first part of a `for` head declares. -/
def forInitVariables : Option ForInit → List String
  | some (.declare d) => [d.name.text]
  | _ => []

/-- The name that a filter declares. -/
def filterVariables (f : Option CatchFilter) : List String :=
  match f with
  | some ⟨_, some x⟩ => [x.text]
  | _ => []

mutual

/-- The names that a statement declares, at any depth. -/
def declared : Stmt → List String
  | .declare d => [d.name.text]
  | .ite _ b r => allDeclared b ++ elseDeclared r
  | .while _ b => allDeclared b
  | .for i _ _ b => forInitVariables i ++ allDeclared b
  | .foreach _ x _ b => x.text :: allDeclared b
  | .attempt b hs none => allDeclared b ++ handlersDeclared hs
  | .attempt b hs (some f) => allDeclared b ++ handlersDeclared hs ++ allDeclared f
  | .block b => allDeclared b
  | _ => []

/-- The names that statements declare. -/
def allDeclared : List Stmt → List String
  | [] => []
  | s :: ss => declared s ++ allDeclared ss

/-- The names that the rest of a conditional declares. -/
def elseDeclared : Else → List String
  | .none => []
  | .block b => allDeclared b
  | .elseIf _ b r => allDeclared b ++ elseDeclared r

/-- The names that handlers declare. -/
def handlersDeclared : List Handler → List String
  | [] => []
  | .mk f b :: hs => filterVariables f ++ allDeclared b ++ handlersDeclared hs

end

/-- The variables of a member: its parameters and what its body declares. -/
def memberVariables (params : List Param) (body : List Stmt) : List String :=
  params.map (·.name.text) ++ allDeclared body

end BraceScript.Lowering
