import CallStubs.TypeName
import CallStubs.Call

namespace CallStubs

namespace Stub

def defaultWidth : Nat := 4

def maxWidth : Nat := 16

structure Style where
  indent : Text
deriving DecidableEq

namespace Style

def ofWidth (n : Nat) : Style := ⟨List.replicate (min n maxWidth) ' '⟩

def standard : Style := ofWidth defaultWidth

end Style

structure Value where
  text : Text
  note : Option Text
deriving DecidableEq

def valueOfName? (t : Text) : Option Value :=
  let is (names : List String) : Bool := (names.map String.toList).contains (t.map Char.toLower)
  if is ["int", "long", "long long", "ll", "short", "size_t"] then some ⟨"0".toList, none⟩
  else if is ["double", "float"] then some ⟨"0.0".toList, none⟩
  else if is ["bool"] then some ⟨"false".toList, none⟩
  else if is ["char"] then some ⟨"'\\0'".toList, none⟩
  else if is ["string"] then some ⟨"\"\"".toList, none⟩
  else if is ["auto"] then
    some ⟨"0".toList, some "Change this based on actual return type needed".toList⟩
  else none

def valueOf (type : Text) : Value :=
  (valueOfName? type).getD <|
    if TypeName.mentionsContainer type then ⟨"\x7b\x7d".toList, none⟩
    else ⟨"\x7b\x7d".toList, some "Default initialization".toList⟩

structure Head where
  name : Text
  parameters : List Text
  returnType : Text
deriving DecidableEq

namespace Head

def text (h : Head) : Text :=
  h.returnType ++ ' ' :: h.name ++ '(' :: Text.concatSep ", ".toList h.parameters ++ [')']

end Head

def todo (name : Text) : Text :=
  "// TODO: implement ".toList ++ name ++ "()".toList

def returnText (v : Value) : Text :=
  "return ".toList ++ v.text ++ ';' :: match v.note with
    | some n => "  // ".toList ++ n
    | none => []

def inner (h : Head) : List Text :=
  todo h.name :: if h.returnType = Call.void then [] else [returnText (valueOf h.returnType)]

def render (style : Style) (h : Head) : Text :=
  h.text ++ " \x7b\n".toList ++ (inner h).flatMap (fun t => style.indent ++ t ++ ['\n']) ++ "\x7d\n\n".toList

def span (t : Text) : Nat :=
  t.count '\n'

end Stub

end CallStubs
