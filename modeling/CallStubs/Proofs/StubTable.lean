import CallStubs.Proofs.Turns

/-! The stubs that a session has written above a function, as a table with one entry for each function. -/

namespace CallStubs

namespace Stub

def lastOf? (log : List Head) (f : Text) : Option Head :=
  log.reverse.find? (·.name == f)

/-- One head for each function: in the order in which the functions first came up, each with the head that
came last. -/
def latest (log : List Head) : List Head :=
  (log.map Head.name).eraseDups.filterMap (lastOf? log)

lemma nodup_eraseDups (ns : List Text) : ns.eraseDups.Nodup := by
  induction ns using List.reverseRecOn with
  | nil => exact List.nodup_nil
  | append_singleton ns f ih =>
    rw [eraseDups_concat]
    split_ifs with h
    · exact ih
    · rw [← List.concat_eq_append]
      exact ih.concat (by rwa [List.mem_eraseDups])

lemma lastOf?_concat (log : List Head) (h : Head) (f : Text) :
    lastOf? (log ++ [h]) f = if h.name = f then some h else lastOf? log f := by
  rw [lastOf?, List.reverse_append, List.reverse_singleton, List.singleton_append]
  by_cases hf : h.name = f
  · rw [List.find?_cons_of_pos (by simpa using hf), if_pos hf]
  · rw [List.find?_cons_of_neg (by simpa using hf), if_neg hf, lastOf?]

lemma lastOf?_eq_some {log : List Head} {f : Text} {h : Head} (hh : lastOf? log f = some h) :
    h.name = f ∧ h ∈ log := by
  refine ⟨?_, List.mem_reverse.1 (List.mem_of_find?_eq_some hh)⟩
  simpa using List.find?_some hh

lemma exists_lastOf? {log : List Head} {f : Text} (hf : f ∈ log.map Head.name) : ∃ h, lastOf? log f = some h := by
  obtain ⟨h, hh, rfl⟩ := List.mem_map.1 hf
  rw [← Option.isSome_iff_exists, lastOf?, List.find?_isSome]
  exact ⟨h, List.mem_reverse.2 hh, by simp⟩

lemma mem_of_mem_latest {log : List Head} {h : Head} (hh : h ∈ latest log) : h ∈ log := by
  obtain ⟨f, -, hf⟩ := List.mem_filterMap.1 hh
  exact (lastOf?_eq_some hf).2

lemma map_name_latest (log : List Head) : (latest log).map Head.name = (log.map Head.name).eraseDups := by
  have hid : ∀ f ∈ (log.map Head.name).eraseDups, (lastOf? log f).map Head.name = some f := by
    intro f hf
    obtain ⟨h, hh⟩ := exists_lastOf? (List.mem_eraseDups.1 hf)
    rw [hh, Option.map_some, (lastOf?_eq_some hh).1]
  rw [latest, List.map_filterMap, List.filterMap_congr hid, List.filterMap_some]

lemma filterMap_lastOf?_concat (log : List Head) (h : Head) {ns : List Text} (hns : h.name ∉ ns) :
    ns.filterMap (lastOf? (log ++ [h])) = ns.filterMap (lastOf? log) := by
  refine List.filterMap_congr fun f hf => ?_
  have hne : h.name ≠ f := fun he => hns (he ▸ hf)
  rw [lastOf?_concat, if_neg hne]

lemma latest_concat (log : List Head) (h : Head) :
    ((∀ k ∈ latest log, k.name ≠ h.name) ∧ latest (log ++ [h]) = latest log ++ [h]) ∨
    ∃ K g M, latest log = K ++ g :: M ∧ g.name = h.name ∧ (∀ k ∈ K, k.name ≠ h.name) ∧
      latest (log ++ [h]) = K ++ h :: M := by
  have hself : lastOf? (log ++ [h]) h.name = some h := by rw [lastOf?_concat, if_pos rfl]
  rw [latest, latest, List.map_append, List.map_singleton, eraseDups_concat]
  split_ifs with hm
  · right
    obtain ⟨N, N', hN⟩ := List.append_of_mem (List.mem_eraseDups.2 hm)
    have hnodup := nodup_eraseDups (log.map Head.name)
    rw [hN, List.nodup_append, List.nodup_cons] at hnodup
    have h₁ : h.name ∉ N := fun hc => hnodup.2.2 _ hc _ List.mem_cons_self rfl
    obtain ⟨g, hg⟩ := exists_lastOf? hm
    refine ⟨N.filterMap (lastOf? log), g, N'.filterMap (lastOf? log), ?_, (lastOf?_eq_some hg).1, ?_, ?_⟩
    · rw [hN, List.filterMap_append, List.filterMap_cons, hg]
    · intro k hk he
      obtain ⟨f, hf, hkf⟩ := List.mem_filterMap.1 hk
      exact h₁ (he ▸ (lastOf?_eq_some hkf).1 ▸ hf)
    · rw [hN, List.filterMap_append, List.filterMap_cons, hself, filterMap_lastOf?_concat log h h₁,
        filterMap_lastOf?_concat log h hnodup.2.1.1]
  · left
    refine ⟨fun k hk he => hm (he ▸ List.mem_map_of_mem (mem_of_mem_latest hk)), ?_⟩
    have hm' : h.name ∉ (log.map Head.name).eraseDups := by rwa [List.mem_eraseDups]
    rw [List.filterMap_append, filterMap_lastOf?_concat log h hm', List.filterMap_cons, hself]
    rfl

def table (style : Style) (log : List Head) : List Text :=
  (latest log).flatMap (lines style)

end Stub

lemma Stub.tidy_table {style : Style} (hr : Text.includes "\r\n".toList style.indent = false) {log : List Head}
    (hlog : ∀ h ∈ log, h.Feedless) : ∀ l ∈ table style log, Tidy l := by
  intro l hl
  obtain ⟨h, hh, hl⟩ := List.mem_flatMap.1 hl
  exact tidy_lines hr (hlog h (mem_of_mem_latest hh)) l hl

/-- A function in a text: its head, with the lines above it and below it. No other function starts below. -/
structure Frame where
  above : List Text
  head : Text
  body : List Text
  tidy : ∀ l ∈ above ++ head :: body, Tidy l
  isHead : Signature.isHead (Text.trim head) = true
  plain : ∀ l ∈ body, Signature.isHead (Text.trim l) = false ∧ Signature.opensHead (Text.trim l) = false

namespace Frame

variable (F : Frame)

def buffer (crlf : Bool) (style : Stub.Style) (log : List Stub.Head) : Buffer :=
  ⟨F.above ++ Stub.table style log ++ F.head :: F.body, crlf⟩

def row (style : Stub.Style) (log : List Stub.Head) (j : Nat) : Nat :=
  (F.above ++ Stub.table style log).length + 1 + j

structure Admits (h : Stub.Head) : Prop where
  feedless : h.Feedless
  name : Text.isWordText h.name = true
  returnType : Text.isWordText h.returnType = true
  fresh : ∀ l ∈ F.above, Signature.defines h.name l = false

variable {F}

section Tidy

variable {style : Stub.Style} (hr : Text.includes "\r\n".toList style.indent = false)

include hr

lemma tidy_buffer (crlf : Bool) {log : List Stub.Head} (hlog : ∀ h ∈ log, h.Feedless) :
    ∀ l ∈ (F.buffer crlf style log).lines, Tidy l := by
  intro l hl
  have htidy := F.tidy l
  have htable := Stub.tidy_table hr hlog l
  simp only [buffer, List.mem_append] at hl htidy
  tauto

lemma wellFormed_buffer (crlf : Bool) {log : List Stub.Head} (hlog : ∀ h ∈ log, h.Feedless) :
    (F.buffer crlf style log).WellFormed where
  nonempty := by simp [buffer]
  feedless l hl := (tidy_buffer hr crlf hlog l hl).1

end Tidy

lemma insertionPoint_row (crlf : Bool) (style : Stub.Style) (log : List Stub.Head) {j : Nat}
    (hj : j < F.body.length) : Placement.insertionPoint (F.buffer crlf style log) (F.row style log j) =
      (F.above ++ Stub.table style log).length := by
  rw [row, Nat.add_assoc]
  refine Placement.insertionPoint_of_start rfl (by simpa [Nat.add_comm] using hj) (fun k hk hkj => ?_) ?_
  · obtain ⟨d, rfl⟩ : ∃ d, k = d + 1 := ⟨k - 1, by omega⟩
    have hd : d < F.body.length := by omega
    have hl := F.plain _ (List.getElem_mem hd)
    simp [Placement.startsFunction, Buffer.trimmed, Buffer.line?, List.getElem?_eq_getElem hd, hl.1, hl.2]
  · simp [Placement.startsFunction, Buffer.trimmed, Buffer.line?, F.isHead]

section Entry

variable {style : Stub.Style} (hi : Text.isBlankText style.indent = true)
  (hr : Text.includes "\r\n".toList style.indent = false) {log : List Stub.Head} {h : Stub.Head}
  (hlog : ∀ g ∈ log, F.Admits g) (hh : F.Admits h) (crlf : Bool)

include hr hlog in
lemma result_of_range {K M Y : List Text} (hold : Stub.table style log = K ++ M ++ Y)
    (hnew : Stub.table style (log ++ [h]) = K ++ Stub.lines style h ++ Y) {a : Action}
    (ha : a.range = ⟨(F.above ++ K).length, (F.above ++ K).length + M.length⟩) (j : Nat) :
    a.result (F.buffer crlf style log) (Stub.lines style h) = F.buffer crlf style (log ++ [h]) ∧
      a.shift (Stub.lines style h).length (F.row style log j) = F.row style (log ++ [h]) j := by
  have htidy := tidy_buffer (F := F) hr crlf fun g hg => (hlog g hg).feedless
  have hlines : (F.buffer crlf style log).lines = (F.above ++ K) ++ M ++ (Y ++ F.head :: F.body) := by
    simp [buffer, hold]
  constructor
  · rw [Action.result, ha, Buffer.withBlock_of_tidy hlines htidy (by simp),
      map_dropReturn_eq (Stub.dropReturn_lines hr h)]
    simp [buffer, hnew]
  · have hspares : a.Spares (F.row style log j) := by
      rw [Action.Spares, ha, row, hold]
      simp only [List.length_append]
      omega
    rw [hspares.shift_eq (by rw [ha]; exact Nat.le_add_right _ _), ha, row, row, hold, hnew]
    simp only [List.length_append]
    omega

include hi hlog hh

lemma defines_above {K : List Stub.Head} (hK : ∀ k ∈ K, k ∈ log ∧ k.name ≠ h.name) :
    ∀ l ∈ F.above ++ K.flatMap (Stub.lines style), Signature.defines h.name l = false := by
  intro l hl
  rcases List.mem_append.1 hl with hl | hl
  · exact hh.fresh l hl
  · obtain ⟨k, hk, hl⟩ := List.mem_flatMap.1 hl
    obtain ⟨hk, hne⟩ := hK k hk
    exact Stub.defines_lines hi (hlog k hk).feedless (.word (hlog k hk).returnType) (hlog k hk).name hh.name hne l hl

include hr

lemma result_plan {j : Nat} (hj : j < F.body.length) :
    let b := F.buffer crlf style log
    let a := Action.plan b (F.row style log j) h.name
    a.result b (Stub.lines style h) = F.buffer crlf style (log ++ [h]) ∧
      a.shift (Stub.lines style h).length (F.row style log j) = F.row style (log ++ [h]) j := by
  intro b a
  have hip : Placement.insertionPoint b (F.row style log j) = _ := insertionPoint_row crlf style log hj
  rcases Stub.latest_concat log h with ⟨hnew, hlat⟩ | ⟨K, g, M, hold, hg, hK, hlat⟩
  · have hnone := Placement.existingStub?_eq_none_of_append (b := b) rfl
      (defines_above hi hlog hh fun k hk => ⟨Stub.mem_of_mem_latest hk, hnew k hk⟩)
    rw [← hip] at hnone
    have ha : a = _ := Action.plan_of_none hnone
    apply result_of_range hr hlog crlf (K := Stub.table style log) (M := []) (Y := []) (by simp)
      (by simp [Stub.table, hlat])
    rw [ha, Action.range, hip]
    rfl
  · have hb : b.lines = (F.above ++ K.flatMap (Stub.lines style)) ++ (Stub.lines style g).map dropReturn ++
        (M.flatMap (Stub.lines style) ++ F.head :: F.body) := by
      simp [b, buffer, Stub.table, hold, map_dropReturn_eq (Stub.dropReturn_lines hr g)]
    have hmem : ∀ k ∈ Stub.latest log, k ∈ log := fun k hk => Stub.mem_of_mem_latest hk
    have hgl : g ∈ log := hmem g (by simp [hold])
    have hd : Signature.defines h.name (Stub.headLine g) = true := by
      rw [← hg, Signature.defines_iff]
      exact Stub.defines_headLine (hlog g hgl).feedless (hlog g hgl).returnType
    have hA := defines_above hi hlog hh fun k hk => ⟨hmem k (by simp [hold, hk]), hK k hk⟩
    have ha : a = _ := Action.plan_of_stub hb hi hd hA (i := F.row style log j) (by
      have hpos := Stub.length_lines style g
      rw [hip, Stub.table, hold, List.flatMap_append, List.flatMap_cons]
      simp only [List.length_append]
      omega)
    apply result_of_range hr hlog crlf (K := K.flatMap (Stub.lines style)) (M := Stub.lines style g)
      (Y := M.flatMap (Stub.lines style)) (by simp [Stub.table, hold]) (by simp [Stub.table, hlat])
    rw [ha, Action.range]

end Entry

structure Holds (F : Frame) (crlf : Bool) (style : Stub.Style) (j : Nat) (log : List Stub.Head)
    (p : Session.Progress) : Prop where
  buffer_eq : p.session.buffer = F.buffer crlf style log
  style_eq : p.session.style = style
  current_eq : p.current = F.row style log j
  admits : ∀ g ∈ log, F.Admits g

section Calls

variable {crlf : Bool} {style : Stub.Style} (hi : Text.isBlankText style.indent = true)
  (hr : Text.includes "\r\n".toList style.indent = false) {j : Nat} {log : List Stub.Head} {p : Session.Progress}

include hr

lemma Holds.wellFormed (h : F.Holds crlf style j log p) : p.session.buffer.WellFormed :=
  h.buffer_eq ▸ wellFormed_buffer hr crlf fun g hg => (h.admits g hg).feedless

include hi

variable (refuses : Gate) {scope : Scope} (line : Nat)

lemma Holds.foldl (hj : j < F.body.length) {cs : List Call} (hf : ∀ c ∈ cs, (c.head scope).Feedless)
    (h : F.Holds crlf style j log p)
    (ht : ∀ u ∈ Session.turns refuses scope line p cs, F.Admits (u.call.head scope)) :
    F.Holds crlf style j (log ++ (Session.turns refuses scope line p cs).map fun u => u.call.head scope)
      (cs.foldl (Session.step refuses scope line) p) := by
  induction cs generalizing p log with
  | nil => simpa [Session.turns] using h
  | cons c cs ih =>
    have hcs := fun d hd => hf d (List.mem_cons_of_mem c hd)
    rw [List.foldl_cons]
    rcases Session.step_cases refuses line (h.wellFormed hr) (hf c List.mem_cons_self) with
      ⟨hb, -, hs, hc, ha⟩ | ⟨-, hb, -, hs, hc, ha⟩
    · rw [Session.turns_cons_of_idle ha] at ht ⊢
      exact ih hcs ⟨hb.trans h.buffer_eq, hs.trans h.style_eq, hc.trans h.current_eq, h.admits⟩ ht
    · rw [Session.turns_cons_of_taken ha] at ht ⊢
      rw [List.forall_mem_cons] at ht
      rw [h.style_eq, h.buffer_eq, h.current_eq] at hb hc
      have hplan := result_plan hi hr h.admits ht.1 crlf hj
      rw [List.map_cons, ← List.singleton_append, ← List.append_assoc]
      refine ih hcs ⟨hb.trans hplan.1, hs.trans h.style_eq, hc.trans hplan.2, ?_⟩ ht.2
      simpa [or_imp, forall_and] using ⟨h.admits, ht.1⟩

end Calls

end Frame

structure Typing where
  row : Nat
  text : Text

structure Typing.Fits (size : Nat) (e : Typing) : Prop where
  row : e.row + 1 < size
  feedless : '\n' ∉ e.text
  returns : ¬"\r\r".toList <:+ e.text
  shape : CallShape (Text.trim e.text)

def Typing.apply (body : List Text) (e : Typing) : List Text :=
  body.set e.row (dropReturn e.text)

lemma Typing.length_foldl (events : List Typing) (body : List Text) :
    (events.foldl Typing.apply body).length = body.length := by
  induction events generalizing body with
  | nil => rfl
  | cons e events ih => rw [List.foldl_cons, ih, Typing.apply, List.length_set]

namespace Frame

variable {F : Frame} {e : Typing}

def typed (F : Frame) {e : Typing} (he : e.Fits F.body.length) : Frame where
  above := F.above
  head := F.head
  body := e.apply F.body
  tidy l hl := by
    have hF := F.tidy l
    simp only [List.mem_append, List.mem_cons] at hl hF
    rcases hl with hl | hl | hl
    · exact hF (Or.inl hl)
    · exact hF (Or.inr (Or.inl hl))
    · rcases List.mem_or_eq_of_mem_set hl with hl | rfl
      · exact hF (Or.inr (Or.inr hl))
      · exact tidy_dropReturn he.feedless he.returns
  isHead := F.isHead
  plain l hl := by
    rcases List.mem_or_eq_of_mem_set hl with hl | rfl
    · exact F.plain l hl
    · rw [Text.trim_dropReturn]
      exact he.shape.not_head

lemma apply_typed (he : e.Fits F.body.length) {style : Stub.Style}
    (hr : Text.includes "\r\n".toList style.indent = false) (crlf : Bool) {log : List Stub.Head}
    (hlog : ∀ h ∈ log, h.Feedless) :
    (F.buffer crlf style log).apply (.replace ⟨F.row style log e.row, F.row style log e.row + 1⟩ (e.text ++ ['\n'])) =
      .ok ((F.typed he).buffer crlf style log) := by
  have hrow := he.row
  let A := F.above ++ Stub.table style log ++ F.head :: F.body.take e.row
  have hlen : A.length = F.row style log e.row := by
    simp [A, row]
    omega
  have hb : (F.buffer crlf style log).lines = A ++ [F.body[e.row]] ++ F.body.drop (e.row + 1) := by
    simp [A, buffer]
  have hne : F.body.drop (e.row + 1) ≠ [] := by simpa using hrow
  have hlt : F.row style log e.row < (F.buffer crlf style log).lineCount := by
    simp only [Buffer.lineCount, buffer, row, List.length_append, List.length_cons]
    omega
  have hls : ∀ l ∈ [e.text], '\n' ∉ l := by simpa using he.feedless
  have happ := Buffer.apply_replace_block (wellFormed_buffer hr crlf hlog)
    (r := ⟨F.row style log e.row, F.row style log e.row + 1⟩) (Nat.le_succ _) hlt hls
  have hblock := Buffer.withBlock_of_tidy hb (tidy_buffer hr crlf hlog) hne [e.text]
  rw [hlen] at hblock
  rw [block_cons, block_nil] at happ
  rw [happ]
  refine congrArg Except.ok (hblock.trans ?_)
  simp [A, typed, Typing.apply, buffer, List.set_eq_take_append_cons_drop]
  omega

end Frame

structure Journal where
  session : Session
  log : List Stub.Head

namespace Journal

def withBuffer (r : Journal) (b : Buffer) : Journal :=
  { r with session := { r.session with buffer := b } }

def process (refuses : Gate) (r : Journal) (i : Nat) : Journal :=
  ⟨(Session.process refuses r.session i).session,
    r.log ++ (Session.turnsAt refuses r.session i).map fun u => u.call.head (Session.scopeAbove r.session.buffer i)⟩

def type (refuses : Gate) (size : Nat) (r : Journal) (e : Typing) : Journal :=
  let i := r.session.buffer.lineCount - size + e.row
  match r.session.buffer.apply (.replace ⟨i, i + 1⟩ (e.text ++ ['\n'])) with
  | .ok b => (r.withBuffer b).process refuses i
  | .error _ => r

lemma log_subset_type (refuses : Gate) (size : Nat) (r : Journal) (e : Typing) :
    r.log ⊆ (r.type refuses size e).log := by
  rw [type]
  split
  · exact List.subset_append_left _ _
  · exact List.Subset.refl _

lemma type_of_apply (refuses : Gate) {size i : Nat} {r : Journal} {e : Typing} {b : Buffer}
    (hi : r.session.buffer.lineCount - size + e.row = i)
    (h : r.session.buffer.apply (.replace ⟨i, i + 1⟩ (e.text ++ ['\n'])) = .ok b) :
    r.type refuses size e = (r.withBuffer b).process refuses i := by
  subst hi
  rw [type, h]

end Journal

namespace Frame

variable {F : Frame} {crlf : Bool} {style : Stub.Style} (hi : Text.isBlankText style.indent = true)
  (hr : Text.includes "\r\n".toList style.indent = false)

structure Records (F : Frame) (crlf : Bool) (style : Stub.Style) (r : Journal) : Prop where
  buffer_eq : r.session.buffer = F.buffer crlf style r.log
  style_eq : r.session.style = style
  admits : ∀ g ∈ r.log, F.Admits g

include hr

lemma Records.wellFormed {r : Journal} (h : F.Records crlf style r) : r.session.buffer.WellFormed :=
  h.buffer_eq ▸ wellFormed_buffer hr crlf fun g hg => (h.admits g hg).feedless

include hi

lemma Records.process (refuses : Gate) {r : Journal} (h : F.Records crlf style r) {j : Nat}
    (hj : j < F.body.length)
    (hlog : ∀ g ∈ (r.process refuses (F.row style r.log j)).log,
      Text.isWordText g.returnType = true ∧ ∀ l ∈ F.above, Signature.defines g.name l = false) :
    F.Records crlf style (r.process refuses (F.row style r.log j)) := by
  generalize hrow : F.row style r.log j = i at hlog ⊢
  have hf : ∀ c ∈ Session.callsAt r.session.buffer i, (c.head (Session.scopeAbove r.session.buffer i)).Feedless :=
    fun c hc => Session.head_feedless (h.wellFormed hr) hc
  have hp : F.Holds crlf style j r.log ⟨r.session, i, [], []⟩ := ⟨h.buffer_eq, h.style_eq, hrow.symm, h.admits⟩
  have hturns : ∀ u ∈ Session.turnsAt refuses r.session i,
      F.Admits (u.call.head (Session.scopeAbove r.session.buffer i)) := by
    intro u hu
    have hc := Session.call_of_mem_turns hu
    have hg := hlog _ (List.mem_append_right _ (List.mem_map_of_mem hu))
    exact ⟨hf _ hc, Call.isWordText_name hc, hg.1, hg.2⟩
  have hq := hp.foldl hi hr refuses i hj hf hturns
  exact ⟨hq.buffer_eq, hq.style_eq, hq.admits⟩

lemma Records.type (refuses : Gate) {r : Journal} (h : F.Records crlf style r) {size : Nat}
    (hsize : F.body.length = size) {e : Typing} (he : e.Fits F.body.length)
    (hlog : ∀ g ∈ (r.type refuses size e).log,
      Text.isWordText g.returnType = true ∧ ∀ l ∈ F.above, Signature.defines g.name l = false) :
    (F.typed he).Records crlf style (r.type refuses size e) := by
  have hindex : r.session.buffer.lineCount - size + e.row = F.row style r.log e.row := by
    simp only [← hsize, h.buffer_eq, Buffer.lineCount, buffer, row, List.length_append, List.length_cons]
    omega
  have happ := apply_typed he hr crlf fun g hg => (h.admits g hg).feedless
  rw [← h.buffer_eq] at happ
  rw [Journal.type_of_apply refuses hindex happ] at hlog ⊢
  have hrec : (F.typed he).Records crlf style (r.withBuffer ((F.typed he).buffer crlf style r.log)) :=
    ⟨rfl, h.style_eq, fun g hg => ⟨(h.admits g hg).feedless, (h.admits g hg).name, (h.admits g hg).returnType,
      (h.admits g hg).fresh⟩⟩
  refine hrec.process hi hr refuses (j := e.row) ?_ hlog
  have hrow := he.row
  simp only [typed, Typing.apply, List.length_set]
  omega

lemma Records.run (refuses : Gate) {r : Journal} (h : F.Records crlf style r) {events : List Typing}
    (he : ∀ e ∈ events, e.Fits F.body.length)
    (hlog : ∀ g ∈ (events.foldl (Journal.type refuses F.body.length) r).log,
      Text.isWordText g.returnType = true ∧ ∀ l ∈ F.above, Signature.defines g.name l = false) :
    ∃ G : Frame, G.above = F.above ∧ G.head = F.head ∧ G.body = events.foldl Typing.apply F.body ∧
      G.Records crlf style (events.foldl (Journal.type refuses F.body.length) r) := by
  induction events using List.reverseRecOn with
  | nil => exact ⟨F, rfl, rfl, rfl, h⟩
  | append_singleton events e ih =>
    simp only [List.foldl_append, List.foldl_cons, List.foldl_nil] at hlog ⊢
    obtain ⟨G, hA, hH, hB, hG⟩ := ih (fun d hd => he d (List.mem_append_left _ hd)) fun g hg =>
      hlog g (Journal.log_subset_type _ _ _ _ hg)
    have hlen : G.body.length = F.body.length := by rw [hB, Typing.length_foldl]
    have hfit : e.Fits G.body.length := hlen ▸ he e (by simp)
    rw [← hA] at hlog
    exact ⟨G.typed hfit, hA, hH, congrArg (Typing.apply · e) hB, hG.type hi hr refuses hlen hfit hlog⟩

end Frame

/-- However lines with calls are typed below a head: above it stands one stub for each function that was
accepted, in the order of the first acceptance and as the last acceptance has it. Nothing else changes. -/
theorem stubs_form_table (refuses : Gate) (t : Text) (m : Memory) (style : Stub.Style)
    (hi : Text.isBlankText style.indent = true) (hr : Text.includes "\r\n".toList style.indent = false) (n : Nat)
    (P : List Text) (S : Text) (B : List Text) (events : List Typing)
    (ht : Text.includes "\r\r".toList t = false) (hlines : (Buffer.ofText t).lines = P ++ S :: B)
    (hS : Signature.isHead (Text.trim S) = true)
    (hB : ∀ l ∈ B, Signature.isHead (Text.trim l) = false ∧ Signature.opensHead (Text.trim l) = false)
    (he : ∀ e ∈ events, e.Fits B.length)
    (hlog : ∀ g ∈ (events.foldl (Journal.type refuses B.length) ⟨⟨.ofText t, m, style, n⟩, []⟩).log,
      Text.isWordText g.returnType = true ∧ ∀ l ∈ P, Signature.defines g.name l = false) :
    let r := events.foldl (Journal.type refuses B.length) ⟨⟨.ofText t, m, style, n⟩, []⟩
    r.session.buffer = ⟨P ++ (Stub.latest r.log).flatMap (Stub.lines style) ++ S :: events.foldl Typing.apply B,
      (Buffer.ofText t).crlf⟩ ∧
    (Stub.latest r.log).map Stub.Head.name = (r.log.map Stub.Head.name).eraseDups ∧
    ((Stub.latest r.log).map Stub.Head.name).Nodup := by
  intro r
  have htidy := tidy_ofText ht
  rw [hlines] at htidy
  let F : Frame := ⟨P, S, B, htidy, hS, hB⟩
  have hstart : F.Records (Buffer.ofText t).crlf style ⟨⟨.ofText t, m, style, n⟩, []⟩ := by
    refine ⟨?_, rfl, by simp⟩
    have hb : (Buffer.ofText t) = ⟨P ++ S :: B, (Buffer.ofText t).crlf⟩ := by rw [← hlines]
    simpa [Frame.buffer, Stub.table, Stub.latest] using hb
  obtain ⟨G, hA, hH, hBody, hG⟩ := hstart.run hi hr refuses he hlog
  refine ⟨?_, Stub.map_name_latest r.log, ?_⟩
  · rw [hG.buffer_eq, Frame.buffer, hA, hH, hBody]
    rfl
  · rw [Stub.map_name_latest]
    exact Stub.nodup_eraseDups _

theorem stubs_form_table_of_three_lines :
    let t : Text := "#include <cmath>\nint main() \x7b\n\n\n\n\n\x7d\n".toList
    let P : List Text := ["#include <cmath>".toList]
    let S : Text := "int main() \x7b".toList
    let B : List Text := [[], [], [], [], "\x7d".toList, []]
    let events : List Typing := [⟨0, "    int x = f(1);".toList⟩, ⟨3, "    double y = g(f(2));".toList⟩,
      ⟨0, "    bool x = f(true);\r".toList⟩]
    let r := events.foldl (Journal.type .free B.length) ⟨⟨.ofText t, .empty, .standard, 0⟩, []⟩
    let f : Stub.Head := ⟨"f".toList, ["bool arg0".toList], "bool".toList⟩
    let g : Stub.Head := ⟨"g".toList, ["int arg0".toList], "double".toList⟩
    r.log.map Stub.Head.name = ["f".toList, "g".toList, "f".toList] ∧
      Stub.latest r.log = [f, g] ∧
      r.session.buffer = ⟨P ++ (Stub.latest r.log).flatMap (Stub.lines .standard) ++ S :: events.foldl Typing.apply B,
        (Buffer.ofText t).crlf⟩ := by
  intro t P S B events r f g
  have hfit : ∀ e ∈ events, e.Fits B.length := by
    intro e he
    simp only [events, List.mem_cons, List.not_mem_nil, or_false] at he
    rcases he with rfl | rfl | rfl
    · exact ⟨by decide, by decide, by decide +kernel,
        @shape_of_mem_extract (fun _ => none) _ ⟨"f".toList, ["1".toList], "int".toList⟩ (by decide +kernel)⟩
    · exact ⟨by decide, by decide, by decide +kernel,
        @shape_of_mem_extract (fun _ => none) _ ⟨"f".toList, ["2".toList], "double".toList⟩ (by decide +kernel)⟩
    · exact ⟨by decide, by decide, by decide +kernel,
        @shape_of_mem_extract (fun _ => none) _ ⟨"f".toList, ["true".toList], "bool".toList⟩ (by decide +kernel)⟩
  have htable := (stubs_form_table .free t .empty .standard (by decide) (by decide) 0 P S B events
    (by decide +kernel) (by decide +kernel) (by decide +kernel) (by decide +kernel) hfit (by decide +kernel)).1
  refine ⟨by decide +kernel, by decide +kernel, ?_⟩
  simp only [r]
  exact htable

end CallStubs
