import CallStubs.Proofs.OwnWrite
import CallStubs.Proofs.Replay

/-! A session that looks at its file from time to time does what a session does that keeps its buffer. -/

namespace CallStubs

lemma sharedLines_set {ls : List Text} {j : Nat} {u : Text} (hj : j < ls.length) (hu : ls[j]? ≠ some u) :
    sharedLines ls (ls.set j u) = j := by
  induction ls generalizing j with
  | nil => simp at hj
  | cons l ls ih =>
    cases j with
    | zero =>
      have hne : l ≠ u := by simpa using hu
      rw [List.set_cons_zero, sharedLines, if_neg hne]
    | succ j =>
      rw [List.getElem?_cons_succ] at hu
      rw [List.set_cons_succ, sharedLines, if_pos rfl, ih (Nat.lt_of_succ_lt_succ hj) hu]

lemma firstChange?_set {ls : List Text} {j : Nat} {u : Text} (hj : j < ls.length) (hu : ls[j]? ≠ some u) :
    firstChange? ls (ls.set j u) = some j := by
  have hne : ls ≠ ls.set j u := by
    intro he
    apply hu
    rw [he, List.getElem?_set_self hj]
  rw [firstChange?, if_neg hne, sharedLines_set hj hu, List.length_set, Nat.min_eq_left (Nat.le_sub_one_of_lt hj)]

lemma Tracker.refresh_toText {k : Tracker} (hr : Text.includes "\r\n".toList k.style.indent = false) {b : Buffer}
    (hb : b.Clean) {line : Nat} (h : firstChange? k.snapshot b.lines = some line) :
    let p := Session.process Gate.free ⟨b, k.memory, k.style, 0⟩ line
    k.refresh (.text b.toText) =
      .ok ⟨⟨p.session.buffer.lines, p.session.memory, k.style⟩, .text p.session.buffer.toText, p.actions, none⟩ := by
  intro p
  have hread := hb.ofText_toText
  have hrefresh := refresh_of_changed (t := b.toText) (hread.symm ▸ h)
  have hsettles : Session.Settles b p :=
    Session.settles_process (s := ⟨b, k.memory, k.style, 0⟩) hb.wellFormed hb.settled.settling hr Gate.free line
  rw [hread] at hrefresh
  cases hsettles with
  | idle hidle he => rw [hrefresh, if_pos hidle, he]
  | written hwrote => rw [hrefresh, if_neg hwrote]

structure Overwrite where
  row : Nat
  text : Text
deriving DecidableEq

namespace Overwrite

def onText (o : Overwrite) (t : Text) : Text :=
  ['\n'].intercalate ((t.splitOn '\n').modify o.row fun l => o.text ++ l.drop (dropReturn l).length)

def onFile (o : Overwrite) : File → File
  | .text t => .text (o.onText t)
  | f => f

def onBuffer (o : Overwrite) (b : Buffer) : Buffer :=
  ⟨b.lines.set o.row o.text, b.crlf⟩

def edit (o : Overwrite) : Edit :=
  .replace ⟨o.row, o.row + 1⟩ (o.text ++ ['\n'])

def Fits (o : Overwrite) (b : Buffer) : Prop :=
  o.row + 1 < b.lineCount ∧ '\n' ∉ o.text ∧ o.text.getLast? ≠ some '\r' ∧ b.line? o.row ≠ some o.text

instance (o : Overwrite) (b : Buffer) : Decidable (o.Fits b) :=
  inferInstanceAs (Decidable (_ ∧ _))

section Fits

variable {o : Overwrite} {b : Buffer} (ho : o.Fits b)

include ho

lemma clean_onBuffer (hb : b.Clean) : (o.onBuffer b).Clean := by
  obtain ⟨hrow, hfeed, hreturn, -⟩ := ho
  refine ⟨?_, fun l hl => ?_, fun hc => ?_⟩
  · simpa [onBuffer] using hb.nonempty
  · rcases List.mem_or_eq_of_mem_set hl with hl | rfl
    · exact hb.tidy l hl
    · exact ⟨hfeed, dropReturn_of_getLast _ hreturn⟩
  · simpa [onBuffer, Buffer.lineCount] using hb.broken hc

lemma apply_edit (hb : b.Clean) : b.apply o.edit = .ok (o.onBuffer b) := by
  obtain ⟨hrow, hfeed, hreturn, -⟩ := ho
  have hblock : o.text ++ ['\n'] = block [o.text] := by simp [block]
  have htidy : ∀ l ∈ [o.text], Tidy l := by
    intro l hl
    rw [List.mem_singleton.1 hl]
    exact ⟨hfeed, dropReturn_of_getLast _ hreturn⟩
  have hlt : o.row < b.lines.length := Nat.lt_of_succ_lt hrow
  rw [edit, hblock, Buffer.apply_replace_block hb.wellFormed (Nat.le_succ _) hlt fun l hl => (htidy l hl).1,
    hb.withBlock_eq htidy, Buffer.linesFrom, if_pos hrow, onBuffer, List.set_eq_take_append_cons_drop, if_pos hlt]
  simp

lemma onText_toText (hb : b.Clean) : o.onText b.toText = (o.onBuffer b).toText := by
  rw [onText, hb.wellFormed.splitOn_toText, modify_marked b.mark hb.settled.dropReturn_mark ho.1, Buffer.toText_eq]
  rfl

lemma firstChange?_onBuffer : firstChange? b.lines (o.onBuffer b).lines = some o.row :=
  firstChange?_set (Nat.lt_of_succ_lt ho.1) ho.2.2.2

end Fits

end Overwrite

namespace Session

def overwrite (s : Session) (o : Overwrite) : Progress :=
  match s.buffer.apply o.edit with
  | .ok b => process Gate.free { s with buffer := b } o.row
  | .error _ => ⟨s, o.row, [], []⟩

def FitAll (s : Session) : List Overwrite → Prop
  | [] => True
  | o :: os => o.Fits s.buffer ∧ FitAll (s.overwrite o).session os

instance decidableFitAll (s : Session) : (os : List Overwrite) → Decidable (s.FitAll os)
  | [] => isTrue trivial
  | o :: os => @instDecidableAnd _ _ _ (decidableFitAll (s.overwrite o).session os)

def overwriteAll (s : Session) : List Overwrite → List (List Action × Text)
  | [] => []
  | o :: os =>
    let p := s.overwrite o
    (p.actions, p.session.buffer.toText) :: p.session.overwriteAll os

def Progress.later (n : Nat) (p : Progress) : Progress :=
  { p with session := { p.session with attempts := n + p.session.attempts } }

lemma step_later (n : Nat) {scope : Scope} {line : Nat} (p : Progress) (c : Call) :
    step Gate.free scope line (p.later n) c = (step Gate.free scope line p c).later n := by
  simp only [step, Progress.later, Gate.apply, Gate.free, Bool.false_eq_true, if_false]
  split_ifs
  · rfl
  · split
    · rfl
    · rfl

lemma process_later (b : Buffer) (m : Memory) (style : Stub.Style) (n line : Nat) :
    process Gate.free ⟨b, m, style, n⟩ line = (process Gate.free ⟨b, m, style, 0⟩ line).later n :=
  (List.foldl_hom (Progress.later n) (step_later n) :
    List.foldl _ (Progress.later n ⟨⟨b, m, style, 0⟩, line, [], []⟩) _ = _)

lemma overwrite_of_fits {s : Session} {o : Overwrite} (hb : s.buffer.Clean) (ho : o.Fits s.buffer) :
    s.overwrite o =
      (process Gate.free ⟨o.onBuffer s.buffer, s.memory, s.style, 0⟩ o.row).later s.attempts := by
  rw [overwrite, Overwrite.apply_edit ho hb, ← process_later]

end Session

structure Desk where
  tracker : Tracker
  file : File
deriving DecidableEq

namespace Desk

/-- What may happen to the file before it is looked at. What cannot be read is put right again afterwards. -/
inductive Event where
  | overwritten (o : Overwrite)
  | unreadable (f : File)
deriving DecidableEq

def Event.overwrite? : Event → Option Overwrite
  | overwritten o => some o
  | unreadable _ => none

abbrev Answer := Except ReadError (List Action)

def look (d : Desk) : Answer × Desk :=
  match d.tracker.refresh d.file with
  | .ok o => (.ok o.actions, ⟨o.tracker, o.file⟩)
  | .error e => (.error e, d)

def step (d : Desk) : Event → Answer × Desk
  | .overwritten o => look { d with file := o.onFile d.file }
  | .unreadable f => ((look { d with file := f }).1, { (look { d with file := f }).2 with file := d.file })

def answers (d : Desk) : List Event → List (Answer × File)
  | [] => []
  | e :: es => ((d.step e).1, (d.step e).2.file) :: (d.step e).2.answers es

structure Mirrors (s : Session) (d : Desk) : Prop where
  clean : s.buffer.Clean
  file : d.file = .text s.buffer.toText
  snapshot : d.tracker.snapshot = s.buffer.lines
  memory : d.tracker.memory = s.memory
  style : d.tracker.style = s.style
  indent : Text.includes "\r\n".toList s.style.indent = false

lemma look_of_unreadable {k : Tracker} {f : File} {e : ReadError} (h : f.read = .error e) :
    look ⟨k, f⟩ = (.error e, ⟨k, f⟩) := by
  simp only [look, Tracker.refresh, h, Except.map]

lemma step_unreadable (d : Desk) {f : File} {e : ReadError} (hf : f.read = .error e) :
    d.step (.unreadable f) = (.error e, d) := by
  rw [step, look_of_unreadable hf]

lemma Mirrors.step_overwritten {s : Session} {d : Desk} (h : Mirrors s d) {o : Overwrite} (ho : o.Fits s.buffer) :
    (d.step (.overwritten o)).1 = .ok (s.overwrite o).actions ∧
      Mirrors (s.overwrite o).session (d.step (.overwritten o)).2 := by
  obtain ⟨⟨snapshot, memory, style⟩, f⟩ := d
  obtain ⟨hclean, rfl, rfl, rfl, rfl, hindent⟩ := h
  let p := Session.process Gate.free ⟨o.onBuffer s.buffer, s.memory, s.style, 0⟩ o.row
  have hb := Overwrite.clean_onBuffer ho hclean
  have hrefresh := Tracker.refresh_toText (k := ⟨s.buffer.lines, s.memory, s.style⟩) hindent hb
    (Overwrite.firstChange?_onBuffer ho)
  have hstep : step ⟨⟨s.buffer.lines, s.memory, s.style⟩, .text s.buffer.toText⟩ (.overwritten o) = (.ok p.actions,
      ⟨⟨p.session.buffer.lines, p.session.memory, s.style⟩, .text p.session.buffer.toText⟩) := by
    simp only [step, look, Overwrite.onFile, Overwrite.onText_toText ho hclean, hrefresh, p]
  have hclean' : p.session.buffer.Clean := Session.clean_process (s := ⟨o.onBuffer s.buffer, s.memory, s.style, 0⟩)
    Gate.free hb hindent o.row
  have hstyle : p.session.style = s.style := Session.style_process Gate.free _ o.row
  have hindent' : Text.includes "\r\n".toList p.session.style.indent = false := by
    rw [hstyle]
    exact hindent
  rw [Session.overwrite_of_fits hclean ho, hstep]
  exact ⟨rfl, hclean', rfl, rfl, rfl, hstyle.symm, hindent'⟩

def served (answers : List (Answer × File)) : List (List Action × File) :=
  answers.filterMap fun a => a.1.toOption.map fun actions => (actions, a.2)

lemma served_cons_ok (actions : List Action) (f : File) (answers : List (Answer × File)) :
    served ((.ok actions, f) :: answers) = (actions, f) :: served answers :=
  rfl

lemma served_cons_error (e : ReadError) (f : File) (answers : List (Answer × File)) :
    served ((.error e, f) :: answers) = served answers :=
  rfl

lemma Mirrors.answers {es : List Event} {s : Session} {d : Desk} (h : Mirrors s d)
    (hfit : s.FitAll (es.filterMap Event.overwrite?))
    (hbad : ∀ f, Event.unreadable f ∈ es → ∃ e, f.read = .error e) :
    (d.answers es).map (fun a => a.1.isOk) = es.map (fun e => e.overwrite?.isSome) ∧
      served (d.answers es) =
        (s.overwriteAll (es.filterMap Event.overwrite?)).map fun r => (r.1, .text r.2) := by
  induction es generalizing s d with
  | nil => exact ⟨rfl, rfl⟩
  | cons e es ih =>
    have hbad' : ∀ f, Event.unreadable f ∈ es → ∃ e, f.read = .error e := fun f hf =>
      hbad f (List.mem_cons_of_mem e hf)
    cases e with
    | overwritten o =>
      obtain ⟨ho, hfit⟩ := hfit
      obtain ⟨hanswer, hnext⟩ := h.step_overwritten ho
      obtain ⟨hkinds, hserved⟩ := ih hnext hfit hbad'
      rw [Desk.answers, List.map_cons, List.map_cons, hkinds, hanswer, served_cons_ok, hserved, hnext.file]
      exact ⟨rfl, rfl⟩
    | unreadable f =>
      obtain ⟨e, hf⟩ := hbad f List.mem_cons_self
      obtain ⟨hkinds, hserved⟩ := ih h hfit hbad'
      rw [Desk.answers, step_unreadable d hf, List.map_cons, List.map_cons, hkinds, served_cons_error, hserved]
      exact ⟨rfl, rfl⟩

/-- A file that is written as it was read, line by line overwritten and looked at each time: the session on it answers
as the one that overwrites the lines of its buffer, and leaves the same texts. What cannot be read in between is
answered by an error, and by nothing else. -/
theorem file_mirrors_buffer (t : Text) (style : Stub.Style)
    (hindent : Text.includes "\r\n".toList style.indent = false) (es : List Event)
    (ht : (Buffer.ofText t).toText = t) (hr : Text.includes "\r\r".toList t = false)
    (hfit : (Session.start style (.ofText t)).FitAll (es.filterMap Event.overwrite?))
    (hbad : ∀ f, Event.unreadable f ∈ es → ∃ e, f.read = .error e) :
    ∃ k, Tracker.start style (.text t) = .ok k ∧
      let answers := Desk.answers ⟨k, .text t⟩ es
      answers.map (fun a => a.1.isOk) = es.map (fun e => e.overwrite?.isSome) ∧
      served answers = ((Session.start style (.ofText t)).overwriteAll (es.filterMap Event.overwrite?)).map
        fun r => (r.1, .text r.2) := by
  refine ⟨⟨(Buffer.ofText t).lines, .empty, style⟩, rfl, ?_⟩
  apply Mirrors.answers _ hfit hbad
  exact ⟨Buffer.clean_ofText hr, congrArg File.text ht.symm, rfl, rfl, rfl, hindent⟩

theorem file_mirrors_buffer_across_outages :
    let t : Text := "int main() \x7b\r\n    \r\n    \r\n\x7d\r\n".toList
    let es : List Event := [.overwritten ⟨1, "    int x = f(1);".toList⟩, .unreadable .missing,
      .overwritten ⟨7, "    double y = g(x, f(2));".toList⟩, .unreadable (.garbled [0xff]),
      .unreadable (.garbled [0xff]), .overwritten ⟨11, "    double x = f(1);".toList⟩]
    ∃ k, Tracker.start .standard (.text t) = .ok k ∧
      let answers := Desk.answers ⟨k, .text t⟩ es
      answers.map (fun a => a.1.isOk) = [true, false, true, false, false, true] ∧
      (served answers).map Prod.fst = [[.inserted "f".toList 0], [.inserted "g".toList 5],
        [.replaced "f".toList ⟨0, 5⟩]] := by
  intro t es
  have hbad : ∀ f, Event.unreadable f ∈ es → ∃ e, f.read = .error e := by
    simp [es, File.read]
  obtain ⟨k, hk, hkinds, hserved⟩ := file_mirrors_buffer t .standard (by decide) es (by decide +kernel)
    (by decide +kernel) (by decide +kernel) hbad
  refine ⟨k, hk, hkinds, ?_⟩
  rw [hserved, List.map_map]
  decide +kernel

end Desk

end CallStubs
