import CallStubs.Toml.Lexical

namespace CallStubs.Toml

structure Date where
  year : Nat
  month : Nat
  day : Nat
deriving DecidableEq

structure Time where
  hour : Nat
  minute : Nat
  second : Nat
  nanosecond : Nat
deriving DecidableEq

inductive Offset where
  | utc
  | minutes (m : Int)
deriving DecidableEq

inductive Datetime where
  | date (d : Date)
  | time (t : Time)
  | both (d : Date) (t : Time) (o : Option Offset)
deriving DecidableEq

def isLeapYear (y : Nat) : Bool :=
  y % 4 == 0 && (y % 100 != 0 || y % 400 == 0)

def daysIn (year month : Nat) : Nat :=
  if month = 2 then if isLeapYear year then 29 else 28
  else if month = 4 ∨ month = 6 ∨ month = 9 ∨ month = 11 then 30
  else 31

def fixed? (n low high : Nat) (t : Text) : Option (Nat × Text) :=
  let ds := t.take n
  if ds.length = n ∧ ds.all Char.isDigit then
    let v := numberOf 10 ds
    if low ≤ v ∧ v ≤ high then some (v, t.drop n) else none
  else none

def mark? (c : Char) (t : Text) : Option Text :=
  match t with
  | d :: r => if d = c then some r else none
  | [] => none

def date? (t : Text) : Option (Date × Text) := do
  let (year, t) ← fixed? 4 0 9999 t
  let t ← mark? '-' t
  let (month, t) ← fixed? 2 1 12 t
  let t ← mark? '-' t
  let (day, t) ← fixed? 2 1 (daysIn year month) t
  some (⟨year, month, day⟩, t)

def fraction (t : Text) : Nat × Text :=
  match t with
  | '.' :: r =>
    let ds := r.takeWhile Char.isDigit
    if ds.isEmpty then (0, t)
    else (numberOf 10 ((ds ++ List.replicate 9 '0').take 9), r.dropWhile Char.isDigit)
  | _ => (0, t)

/-- A minute may have a leap second. -/
def time? (t : Text) : Option (Time × Text) := do
  let (hour, t) ← fixed? 2 0 23 t
  let t ← mark? ':' t
  let (minute, t) ← fixed? 2 0 59 t
  let t ← mark? ':' t
  let (second, t) ← fixed? 2 0 60 t
  let (nanosecond, t) := fraction t
  some (⟨hour, minute, second, nanosecond⟩, t)

def offset? (t : Text) : Option (Offset × Text) :=
  match t with
  | [] => none
  | c :: r =>
    if c = 'Z' ∨ c = 'z' then some (.utc, r)
    else if c = '+' ∨ c = '-' then do
      let (hour, r) ← fixed? 2 0 23 r
      let r ← mark? ':' r
      let (minute, r) ← fixed? 2 0 59 r
      let m : Int := hour * 60 + minute
      some (.minutes (if c = '-' then -m else m), r)
    else none

def timeAfterDate? (t : Text) : Option (Time × Text) :=
  match t with
  | c :: r => if c = 'T' ∨ c = 't' ∨ c = ' ' then time? r else none
  | [] => none

def datetime? (t : Text) : Option (Datetime × Text) :=
  match date? t with
  | some (d, t) =>
    match timeAfterDate? t with
    | some (s, t) =>
      match offset? t with
      | some (o, t) => some (.both d s (some o), t)
      | none => some (.both d s none, t)
    | none => some (.date d, t)
  | none => (time? t).map fun (s, t) => (.time s, t)

def Datetime.ofText? (t : Text) : Option Datetime :=
  match datetime? t with
  | some (d, []) => some d
  | _ => none

def padded (n v : Nat) : Text :=
  (Text.ofNat v).leftpad n '0'

def Date.text (d : Date) : Text :=
  padded 4 d.year ++ '-' :: padded 2 d.month ++ '-' :: padded 2 d.day

def Time.text (t : Time) : Text :=
  padded 2 t.hour ++ ':' :: padded 2 t.minute ++ ':' :: padded 2 t.second ++
    if t.nanosecond = 0 then []
    else '.' :: ((padded 9 t.nanosecond).reverse.dropWhile (· == '0')).reverse

def Offset.text : Offset → Text
  | .utc => ['Z']
  | .minutes m =>
    (if m < 0 then '-' else '+') :: padded 2 (m.natAbs / 60) ++ ':' :: padded 2 (m.natAbs % 60)

def Datetime.text : Datetime → Text
  | .date d => d.text
  | .time t => t.text
  | .both d t o => d.text ++ 'T' :: t.text ++ (o.map Offset.text).getD []

end CallStubs.Toml
