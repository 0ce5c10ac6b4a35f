import CallStubs.Text

namespace CallStubs

inductive Command where
  | process (file : Text) (line : Nat) (dryRun : Bool)
  | inspect (file : Text) (line : Nat) (json : Bool)
  | watch (file : Text)
  | version
deriving DecidableEq

structure Invocation where
  command : Command
  config : Option Text
deriving DecidableEq

namespace CommandLine

inductive Task where
  | process
  | inspect
  | watch
deriving DecidableEq

def Task.ofText? (t : Text) : Option Task :=
  if t = "process".toList then some .process
  else if t = "inspect".toList then some .inspect
  else if t = "watch".toList then some .watch
  else none

structure Draft where
  file : Option Text
  line : Option Nat
  dryRun : Bool
  json : Bool
  config : Option Text

def Draft.empty : Draft := ⟨none, none, false, false, none⟩

def number? (t : Text) : Option Nat :=
  let ds := match t with
    | '+' :: r => r
    | _ => t
  if ds ≠ [] ∧ ds.all Char.isDigit then
    let n := ds.foldl (fun n c => 10 * n + (c.toNat - 48)) 0
    if n < UInt64.size then some n else none
  else none

def isDashed (t : Text) : Bool :=
  match t with
  | '-' :: _ :: _ => true
  | _ => false

def option? (t : Text) : Option (Text × Option Text) :=
  match t with
  | '-' :: '-' :: r =>
    match r.dropWhile (· != '=') with
    | '=' :: v => some (r.takeWhile (· != '='), some v)
    | _ => some (r, none)
  | _ => none

def Draft.setFile (d : Draft) (t : Text) : Option Draft :=
  if d.file.isSome ∨ t = [] then none else some { d with file := some t }

def Draft.setConfig (d : Draft) (t : Text) : Option Draft :=
  if d.config.isSome ∨ t = [] then none else some { d with config := some t }

def Draft.setValue? (task : Task) (name : Text) : Option (Draft → Text → Option Draft) :=
  if name = "config".toList then some setConfig
  else if name = "line".toList ∧ task ≠ .watch then
    some fun d t =>
      if d.line.isSome then none
      else (number? t).map fun n => { d with line := some n }
  else none

def Draft.setFlag (task : Task) (name : Text) (d : Draft) : Option Draft :=
  if name = "dry-run".toList ∧ task = .process ∧ !d.dryRun then some { d with dryRun := true }
  else if name = "json".toList ∧ task = .inspect ∧ !d.json then some { d with json := true }
  else none

def readTask (task : Task) : List Text → Draft → Option Draft
  | [], d => some d
  | a :: as, d =>
    if a = "--".toList then as.foldlM Draft.setFile d
    else
      match option? a with
      | none => if isDashed a then none else do readTask task as (← d.setFile a)
      | some (name, value) =>
        match Draft.setValue? task name with
        | none => if value.isSome then none else do readTask task as (← d.setFlag task name)
        | some set =>
          match value with
          | some v => do readTask task as (← set d v)
          | none =>
            match as with
            | [] => none
            | v :: as => if isDashed v then none else do readTask task as (← set d v)

def Draft.command? (d : Draft) : Task → Option Command
  | .process => do some (.process (← d.file) (← d.line) d.dryRun)
  | .inspect => do some (.inspect (← d.file) (← d.line) d.json)
  | .watch => do some (.watch (← d.file))

def invocation? (task : Task) (args : List Text) (config : Option Text) : Option Invocation := do
  let d ← readTask task args .empty
  some ⟨← d.command? task, d.config.or config⟩

def asksVersion (t : Text) : Bool :=
  t == "--version".toList || "-V".toList.isPrefixOf t

def parse? (config : Option Text) : List Text → Option Invocation
  | [] => none
  | a :: as =>
    match Task.ofText? a with
    | some task => invocation? task as config
    | none =>
      if asksVersion a then some ⟨.version, config⟩
      else
        match option? a with
        | some (name, value) =>
          if name = "config".toList ∧ config.isNone then
            match value with
            | some v => if v = [] then none else parse? (some v) as
            | none =>
              match as with
              | [] => none
              | v :: as => if isDashed v ∨ v = [] then none else parse? (some v) as
          else none
        | none => none

end CommandLine

end CallStubs
