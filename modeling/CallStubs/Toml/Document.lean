import CallStubs.Toml.Entry

/-! A document is read entry by entry into one table. A table is opened by at most one header, no key is
given twice, and dotted keys and headers do not share tables. -/

namespace CallStubs.Toml

structure Draft where
  root : Section
  here : List Text

def Draft.empty : Draft := ⟨⟨.headed, []⟩, []⟩

def Section.open? (k : Text) (s : Section) : Option Section :=
  match s.entries.lookup k with
  | none => some { s with entries := s.entries.put k (.table .headed []) }
  | some (.table .implied es) =>
    some { s with entries := (s.entries.remove k).put k (.table .headed es) }
  | some _ => none

def Section.extend? (k : Text) (s : Section) : Option Section :=
  match s.entries.lookup k with
  | none => some { s with entries := s.entries.put k (.array true [.table .headed []]) }
  | some (.array true vs) =>
    some { s with entries := s.entries.put k (.array true (vs ++ [.table .headed []])) }
  | some _ => none

def Draft.enter (f : Text → Section → Option Section) (path : List Text) (d : Draft) : Option Draft := do
  let k ← path.getLast?
  let root ← d.root.modify false (f k) path.dropLast
  some ⟨root, path⟩

def Draft.add (d : Draft) : Entry → Option Draft
  | .pair path v => do
    let root ← d.root.modify false (·.addAt path v) d.here
    some { d with root := root }
  | .header path => d.enter Section.open? path
  | .element path => d.enter Section.extend? path

def skipMark (t : Text) : Text :=
  match t with
  | '\ufeff' :: r => r
  | _ => t

/-- The table that a document describes; a byte order mark in front of it does not count. The table itself
stands for no datetime. -/
def parse? (t : Text) : Option Table := do
  let t := skipMark t
  let es ← entries? (t.length + 1) t
  let d ← es.foldlM Draft.add .empty
  (settleEntries d.root.entries).map Table.sortByKey

end CallStubs.Toml
