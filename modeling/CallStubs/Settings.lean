import CallStubs.EditDistance
import CallStubs.File
import CallStubs.Log
import CallStubs.Stub
import CallStubs.Toml.Document

namespace CallStubs

structure Settings where
  indentWidth : Nat
  debounceMs : Nat
  extensions : List Text
deriving DecidableEq

namespace Settings

def fileName : Text := ".stubsmith.toml".toList

def pathFor (source : Text) : Text :=
  Path.sibling source fileName

def standard : Settings where
  indentWidth := Stub.defaultWidth
  debounceMs := 300
  extensions := ["cpp", "cc", "cxx", "c", "hpp", "h"].map String.toList

def accepts (s : Settings) (extension : Text) : Bool :=
  s.extensions.contains extension

def style (s : Settings) : Stub.Style :=
  .ofWidth s.indentWidth

def indentKey : Text := "indent_width".toList

def debounceKey : Text := "debounce_ms".toList

def extensionsKey : Text := "extensions".toList

def knownKeys : List Text := [indentKey, debounceKey, extensionsKey]

inductive Remark where
  | unreadable (path : Text) (e : ReadError)
  | unparsable (path : Text)
  | unknownKey (key : Text) (suggestion : Option Text)
  | tooWide (width : Nat)
  | notCount (key : Text) (v : Toml.Value)

def Remark.message : Remark → Text
  | unreadable .. => "Could not read config file".toList
  | unparsable _ => "Failed to parse config file".toList
  | unknownKey _ (some s) =>
    "Unknown key in ".toList ++ fileName ++ ", did you mean '".toList ++ s ++ "'?".toList
  | unknownKey _ none =>
    "Unknown key in ".toList ++ fileName ++ " (known keys: ".toList ++ Text.concatSep ", ".toList knownKeys ++
      ")".toList
  | tooWide _ => indentKey ++ " too large, clamping".toList
  | notCount key _ => key ++ " must be a non-negative integer".toList

def Remark.fields : Remark → List Log.Field
  | unreadable path e => [Log.plainField "path" path, Log.plainField "error" e.message]
  | unparsable path => [Log.plainField "path" path]
  | unknownKey key suggestion =>
    Log.quotedField "key" key :: suggestion.toList.map (Log.quotedField "suggestion")
  | tooWide width => [Log.numberField "value" width, Log.numberField "max" Stub.maxWidth]
  | notCount _ v => [Log.plainField "value" v.display]

def Remark.entry (r : Remark) : Log.Entry :=
  ⟨.warn, r.message, r.fields⟩

def keyDistance (a b : Text) : Nat :=
  EditDistance.distance (Utf8.encode a) (Utf8.encode b)

def nearestKey (key : Text) : List Text → Option Text
  | [] => none
  | k :: ks =>
    match nearestKey key ks with
    | none => some k
    | some best => if keyDistance key k ≤ keyDistance key best then some k else some best

def suggestion? (key : Text) : Option Text :=
  (nearestKey key knownKeys).filter fun k => keyDistance key k ≤ 3

def unknownRemarks (t : Toml.Table) : List Remark :=
  (t.filter fun e => !knownKeys.contains e.1).map fun e => .unknownKey e.1 (suggestion? e.1)

def count? : Toml.Value → Option Nat
  | .integer n => if 0 ≤ n then some n.toNat else none
  | _ => none

def indentOf (t : Toml.Table) : Nat × List Remark :=
  match t.lookup indentKey with
  | none => (standard.indentWidth, [])
  | some v =>
    match count? v with
    | none => (standard.indentWidth, [.notCount indentKey v])
    | some n => if Stub.maxWidth < n then (Stub.maxWidth, [.tooWide n]) else (n, [])

def debounceOf (t : Toml.Table) : Nat × List Remark :=
  match t.lookup debounceKey with
  | none => (standard.debounceMs, [])
  | some v =>
    match count? v with
    | none => (standard.debounceMs, [.notCount debounceKey v])
    | some n => (n, [])

def extension? : Toml.Value → Option Text
  | .string s => some (s.dropWhile (· == '.'))
  | _ => none

def extensionsOf (t : Toml.Table) : List Text :=
  match t.lookup extensionsKey with
  | some (.array _ vs) => (vs.filterMap extension?).eraseDups
  | _ => standard.extensions

def ofTable (t : Toml.Table) : Settings × List Remark :=
  (⟨(indentOf t).1, (debounceOf t).1, extensionsOf t⟩,
    unknownRemarks t ++ (indentOf t).2 ++ (debounceOf t).2)

def load (path : Text) (f : File) : Settings × List Remark :=
  if f.exists? then
    match f.read with
    | .error e => (standard, [.unreadable path e])
    | .ok text =>
      match Toml.parse? text with
      | none => (standard, [.unparsable path])
      | some t => ofTable t
  else (standard, [])

end Settings

end CallStubs
