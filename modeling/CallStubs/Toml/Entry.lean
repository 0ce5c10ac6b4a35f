import CallStubs.Toml.Value

namespace CallStubs.Toml

structure Section where
  form : Form
  entries : Table

/-- Changes the table at the end of a path by `f`, making tables on the way as needed. Values in the way
are an obstacle; an array with headers leads into its last element; dotted keys do not lead into a table
that has a header of its own. -/
def Section.modify (dotted : Bool) (f : Section → Option Section) : List Text → Section → Option Section
  | [], s => f s
  | k :: ks, s =>
    match s.entries.lookup k with
    | none => do
      let t ← modify dotted f ks ⟨if dotted then .dotted else .implied, []⟩
      some { s with entries := s.entries.put k (.table t.form t.entries) }
    | some (.table form es) =>
      if form = .braced ∨ (dotted ∧ !form.isOpen) then none
      else do
        let t ← modify dotted f ks ⟨form, es⟩
        some { s with entries := s.entries.put k (.table t.form t.entries) }
    | some (.array true vs) =>
      match vs.getLast? with
      | some (.table form es) => do
        let t ← modify dotted f ks ⟨form, es⟩
        some { s with entries := s.entries.put k (.array true (vs.dropLast ++ [.table t.form t.entries])) }
      | _ => none
    | some _ => none

def Section.add (k : Text) (v : Value) (s : Section) : Option Section :=
  match s.entries.lookup k with
  | some _ => none
  | none => some { s with entries := s.entries.put k v }

def Section.addAt (path : List Text) (v : Value) (s : Section) : Option Section :=
  match path.getLast? with
  | none => none
  | some k =>
    s.modify true
      (fun t => if path.length = 1 ∨ t.form = .dotted then t.add k v else none) path.dropLast

def maxDepth : Nat := 80

def keyPart? (t : Text) : Option (Text × Text) :=
  match t with
  | [] => none
  | c :: _ =>
    if c = '"' ∨ c = '\'' then line? t
    else if isBareKey c then some (t.takeWhile isBareKey, t.dropWhile isBareKey)
    else none

def keyParts? : Nat → Text → Option (List Text × Text)
  | 0, _ => none
  | n + 1, t => do
    let (k, t) ← keyPart? (skipGap t)
    match skipGap t with
    | '.' :: t => do
      let (ks, t) ← keyParts? n t
      some (k :: ks, t)
    | t => some ([k], t)

def key? (t : Text) : Option (List Text × Text) :=
  keyParts? (maxDepth - 1) t

def signed (t : Text) : Bool × Text :=
  match t with
  | '-' :: r => (true, r)
  | '+' :: r => (false, r)
  | _ => (false, t)

def wholePart? (t : Text) : Option (Text × Text) :=
  match t with
  | '0' :: r => some (['0'], r)
  | _ => digits? Char.isDigit t

def applySign (negative : Bool) (n : Nat) : Int :=
  if negative then -n else n

def integerIn64? (n : Int) : Option Value :=
  if Int64.minValue.toInt ≤ n ∧ n ≤ Int64.maxValue.toInt then some (.integer n) else none

def based? (base : Nat) (isDigit : Char → Bool) (t : Text) : Option (Value × Text) := do
  let (ds, r) ← digits? isDigit t
  let v ← integerIn64? (numberOf base ds)
  some (v, r)

def integer? (t : Text) : Option (Value × Text) :=
  match t with
  | '0' :: 'x' :: r => based? 16 isHexDigit r
  | '0' :: 'o' :: r => based? 8 (fun c => '0' ≤ c && c ≤ '7') r
  | '0' :: 'b' :: r => based? 2 (fun c => c == '0' || c == '1') r
  | _ => do
    let (negative, r) := signed t
    let (ds, r) ← wholePart? r
    let v ← integerIn64? (applySign negative (numberOf 10 ds))
    some (v, r)

def exponent? (t : Text) : Option (Int × Text) :=
  match t with
  | c :: r =>
    if c = 'e' ∨ c = 'E' then do
      let (negative, r) := signed r
      let (ds, r) ← digits? Char.isDigit r
      some (applySign negative (numberOf 10 ds), r)
    else none
  | [] => none

/-- A float from its digits before and behind the point; one that is too large must be negative. -/
def floatOf? (negative : Bool) (whole frac : Text) (e : Int) : Option Value :=
  match Number.Binary64.ofDecimal negative (numberOf 10 (whole ++ frac)) (e - frac.length) with
  | .infinite false => none
  | x => some (.float x)

def special? (negative : Bool) (t : Text) : Option (Value × Text) :=
  match "inf".toList.isPrefixOf? t with
  | some r => some (.float (.infinite negative), r)
  | none => ("nan".toList.isPrefixOf? t).map fun r => (.float .nan, r)

def finite? (negative : Bool) (t : Text) : Option (Value × Text) := do
  let (whole, r) ← wholePart? t
  match r with
  | '.' :: r =>
    let (frac, r) ← digits? Char.isDigit r
    match exponent? r with
    | some (e, r) => (floatOf? negative whole frac e).map (·, r)
    | none => (floatOf? negative whole frac 0).map (·, r)
  | _ =>
    let (e, r) ← exponent? r
    (floatOf? negative whole [] e).map (·, r)

def float? (t : Text) : Option (Value × Text) :=
  let (negative, r) := signed t
  (finite? negative r).or (special? negative r)

def number? (t : Text) : Option (Value × Text) :=
  ((datetime? t).map fun (d, r) => (.datetime d, r)).or ((float? t).or (integer? t))

def boolean? (t : Text) : Option (Value × Text) :=
  match "true".toList.isPrefixOf? t with
  | some r => some (.boolean true, r)
  | none => ("false".toList.isPrefixOf? t).map fun r => (.boolean false, r)

def scalar? (t : Text) : Option (Value × Text) :=
  match t with
  | [] => none
  | c :: _ =>
    if c = '"' ∨ c = '\'' then (string? t).map fun (s, r) => (.string s, r)
    else if c = 't' ∨ c = 'f' then boolean? t
    else number? t

def items? (item : Text → Option (Value × Text)) : Nat → Text → Option (List Value × Text)
  | 0, _ => none
  | n + 1, t =>
    match skipFiller false t with
    | ']' :: r => some ([], r)
    | t => do
      let (v, r) ← item t
      match skipFiller false r with
      | ',' :: r => do
        let (vs, r) ← items? item n r
        some (v :: vs, r)
      | ']' :: r => some ([v], r)
      | _ => none

def pair? (item : Text → Option (Value × Text)) (t : Text) : Option ((List Text × Value) × Text) := do
  let (k, r) ← key? t
  let r ← mark? '=' r
  let (v, r) ← item (skipGap r)
  some ((k, v), r)

def pairs? (item : Text → Option (Value × Text)) : Nat → Section → Text → Option (Section × Text)
  | 0, _, _ => none
  | n + 1, s, t => do
    let ((k, v), r) ← pair? item t
    let s ← s.addAt k v
    match skipGap r with
    | ',' :: r => pairs? item n s r
    | '\x7d' :: r => some (s, r)
    | _ => none

def braced? (item : Text → Option (Value × Text)) (t : Text) : Option (Value × Text) :=
  match skipGap t with
  | '\x7d' :: r => some (.table .braced [], r)
  | _ => (pairs? item (t.length + 1) ⟨.braced, []⟩ t).map fun (s, r) => (.table .braced s.entries, r)

/-- A value with at most `d` brackets and braces around any part of it. -/
def value? : Nat → Text → Option (Value × Text)
  | d, t =>
    match t with
    | '[' :: r =>
      match d with
      | 0 => none
      | d + 1 => (items? (value? d) (r.length + 1) r).map fun (vs, r) => (.array false vs, r)
    | '\x7b' :: r =>
      match d with
      | 0 => none
      | d + 1 => braced? (value? d) r
    | _ => scalar? t

inductive Entry where
  | pair (path : List Text) (v : Value)
  | header (path : List Text)
  | element (path : List Text)

def pairEntry? (t : Text) : Option (Entry × Text) := do
  let ((k, v), r) ← pair? (value? (maxDepth - 1)) t
  let r ← finishLine? r
  some (.pair k v, r)

def headerEntry? (t : Text) : Option (Entry × Text) :=
  match t with
  | '[' :: '[' :: r => do
    let (k, r) ← key? r
    let r ← mark? ']' r
    let r ← mark? ']' r
    let r ← finishLine? r
    some (.element k, r)
  | '[' :: r => do
    let (k, r) ← key? r
    let r ← mark? ']' r
    let r ← finishLine? r
    some (.header k, r)
  | _ => none

def entries? : Nat → Text → Option (List Entry)
  | 0, _ => none
  | n + 1, t =>
    match skipGap t with
    | [] => some []
    | '#' :: r => do entries? n (← finishLine? ('#' :: r))
    | '[' :: r => do
      let (e, r) ← headerEntry? ('[' :: r)
      let es ← entries? n r
      some (e :: es)
    | t =>
      match newline? t with
      | some r => entries? n r
      | none => do
        let (e, r) ← pairEntry? t
        let es ← entries? n r
        some (e :: es)

end CallStubs.Toml
