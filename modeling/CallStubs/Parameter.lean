import CallStubs.Declaration

namespace CallStubs.Parameter

def isDigits (t : Text) : Bool :=
  !t.isEmpty && t.all Char.isDigit

def isStringLiteral (t : Text) : Bool :=
  2 ≤ t.length && t.head? == some '"' && t.getLast? == some '"' && !t.contains '\n'

def isDecimalLiteral (t : Text) : Bool :=
  match t.dropWhile Char.isDigit with
  | '.' :: r => isDigits (t.takeWhile Char.isDigit) && isDigits r
  | _ => false

def isCharLiteral (t : Text) : Bool :=
  match t with
  | ['\'', c, '\''] => c != '\n'
  | _ => false

def literalType? (t : Text) : Option Text :=
  if isStringLiteral t then some "string".toList
  else if isDigits t then some "int".toList
  else if isDecimalLiteral t then some "double".toList
  else if isCharLiteral t then some "char".toList
  else if t = "true".toList ∨ t = "false".toList then some "bool".toList
  else none

def knownType? (scope : Scope) (t : Text) : Option Text :=
  if Text.isWordText t then scope.typeOf? t else none

def placeholder (i : Nat) : Text :=
  "arg".toList ++ Text.ofNat i

def declare (type name : Text) : Text :=
  type ++ ' ' :: name

def infer (scope : Scope) (i : Nat) (t : Text) : Text :=
  match knownType? scope t with
  | some type => declare type t
  | none =>
    if t.contains '(' && t.contains ')' then declare "int".toList (placeholder i)
    else
      match literalType? t with
      | some type => declare type (placeholder i)
      | none => declare "int".toList t

def inferAll (scope : Scope) (args : List Text) : List Text :=
  args.mapIdx (infer scope)

end CallStubs.Parameter
