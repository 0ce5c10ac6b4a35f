import CallStubs.Number.Shortest
import CallStubs.Toml.Datetime
import CallStubs.Toml.Quoted

namespace CallStubs.Toml

inductive Form where
  | implied
  | dotted
  | headed
  | braced
deriving DecidableEq

def Form.isOpen : Form → Bool
  | implied => true
  | dotted => true
  | _ => false

inductive Value where
  | string (s : Text)
  | integer (n : Int)
  | float (x : Number.Binary64)
  | boolean (b : Bool)
  | datetime (d : Datetime)
  | array (growing : Bool) (items : List Value)
  | table (form : Form) (entries : List (Text × Value))

abbrev Table := List (Text × Value)

namespace Value

def ofBool (b : Bool) : Text :=
  if b then "true".toList else "false".toList

def ofInt (n : Int) : Text :=
  if n < 0 then '-' :: Text.ofNat n.natAbs else Text.ofNat n.natAbs

def commas (ts : List Text) : Text :=
  Text.concatSep ", ".toList ts

mutual

def inline : Value → Text
  | string s => writeString s
  | integer n => ofInt n
  | float x => x.text
  | boolean b => ofBool b
  | datetime d => d.text
  | array _ vs => '[' :: commas (inlineAll vs) ++ [']']
  | table _ es =>
    if es.isEmpty then "\x7b\x7d".toList
    else "\x7b ".toList ++ commas (inlineFields es) ++ " \x7d".toList

def inlineAll : List Value → List Text
  | [] => []
  | v :: vs => v.inline :: inlineAll vs

def inlineFields : List (Text × Value) → List Text
  | [] => []
  | (k, v) :: es => (writeKey k ++ " = ".toList ++ v.inline) :: inlineFields es

end

/-- A table that starts with this key stands for a datetime, the string under the key. -/
def datetimeKey : Text := "$__toml_private_datetime".toList

/-- A value by itself, not as part of another: there a datetime has the table that stands for it. This is what the
printer of the TOML library is taken to write; only the texts of warnings depend on it. -/
def display : Value → Text
  | datetime d => (table .braced [(datetimeKey, string d.text)]).inline
  | v => v.inline

end Value

namespace Table

def put (k : Text) (v : Value) : Table → Table
  | [] => [(k, v)]
  | (k', v') :: es => if k = k' then (k, v) :: es else (k', v') :: put k v es

def remove (k : Text) (t : Table) : Table :=
  t.filter fun e => e.1 != k

def sortByKey (t : Table) : Table :=
  t.mergeSort fun a b => !decide (b.1 < a.1)

end Table

mutual

/-- The value that is meant: keys get their order, and tables that stand for datetimes become those. -/
def Value.settle : Value → Option Value
  | .array growing vs => (settleAll vs).map (.array growing)
  | .table form ((k, v) :: es) =>
    if k = Value.datetimeKey then
      match v with
      | .string s => (Datetime.ofText? s).map .datetime
      | _ => none
    else do
      let v ← v.settle
      let es ← settleEntries es
      some (.table form (Table.sortByKey ((k, v) :: es)))
  | v => some v

def settleAll : List Value → Option (List Value)
  | [] => some []
  | v :: vs => do
    let v ← v.settle
    let vs ← settleAll vs
    some (v :: vs)

def settleEntries : List (Text × Value) → Option (List (Text × Value))
  | [] => some []
  | (k, v) :: es => do
    let v ← v.settle
    let es ← settleEntries es
    some ((k, v) :: es)

end

end CallStubs.Toml
