import CallStubs.Proofs.Remembering

/-! A line all of whose calls are new: their stubs form one block above the function that the line belongs to. -/

namespace CallStubs

def Action.insertions (style : Stub.Style) : Nat → List Stub.Head → List Action
  | _, [] => []
  | i, h :: hs => .inserted h.name i :: insertions style (i + (Stub.lines style h).length) hs

lemma Action.insertions_concat (style : Stub.Style) (i : Nat) (hs : List Stub.Head) (h : Stub.Head) :
    insertions style i (hs ++ [h]) =
      insertions style i hs ++ [.inserted h.name (i + (hs.flatMap (Stub.lines style)).length)] := by
  induction hs generalizing i with
  | nil => rfl
  | cons g hs ih =>
    rw [List.cons_append, insertions, ih, insertions, List.cons_append, List.flatMap_cons, List.length_append,
      Nat.add_assoc]

namespace Session

structure Proper (h : Stub.Head) : Prop where
  feedless : h.Feedless
  name : Text.isWordText h.name = true
  returnType : TypeName.Spelling h.returnType

/-- A run on the line `d` lines below the place between `A` and `R`. It has inserted the stubs `hs` there. -/
structure Batch (A R : List Text) (crlf : Bool) (style : Stub.Style) (line d : Nat) (hs : List Stub.Head)
    (p : Progress) : Prop where
  clean : p.session.buffer.Clean
  buffer_eq : p.session.buffer = ⟨A ++ hs.flatMap (Stub.lines style) ++ R, crlf⟩
  style_eq : p.session.style = style
  current_eq : p.current = (A ++ hs.flatMap (Stub.lines style)).length + d
  processed : ∀ f, f ∈ p.session.memory.processed ↔ f ∈ hs.map Stub.Head.name
  skips : ∀ f, p.session.memory.skips f line = true ↔ f ∈ p.session.memory.processed
  actions_eq : p.actions = Action.insertions style A.length hs

namespace Batch

variable {A R : List Text} {crlf : Bool} {style : Stub.Style} {line d : Nat} {hs : List Stub.Head} {p : Progress}

section Step

variable (hi : Text.isBlankText style.indent = true) (hr : Text.includes "\r\n".toList style.indent = false)
variable (hd : d < R.length) (hstart : Placement.startsFunction ⟨R, crlf⟩ 0 = true)
  (hquiet : ∀ j, 0 < j → j ≤ d → Placement.startsFunction ⟨R, crlf⟩ j = false)

include hi hd hstart hquiet

lemma plan_eq (h : Batch A R crlf style line d hs p) (hhs : ∀ g ∈ hs, Proper g) {f : Text}
    (hw : Text.isWordText f = true) (hA : ∀ z ∈ A, Signature.defines f z = false) (hf : f ∉ hs.map Stub.Head.name) :
    Action.plan p.session.buffer p.current f = .inserted f (A ++ hs.flatMap (Stub.lines style)).length := by
  have hdef : ∀ z ∈ A ++ hs.flatMap (Stub.lines style), Signature.defines f z = false := by
    intro z hz
    rcases List.mem_append.1 hz with hz | hz
    · exact hA z hz
    · obtain ⟨g, hg, hz⟩ := List.mem_flatMap.1 hz
      have hne : g.name ≠ f := fun he => hf (he ▸ List.mem_map_of_mem hg)
      exact Stub.defines_lines hi (hhs g hg).feedless (hhs g hg).returnType (hhs g hg).name hw hne z hz
  have hpoint : Placement.insertionPoint p.session.buffer p.current =
      (A ++ hs.flatMap (Stub.lines style)).length := by
    rw [h.buffer_eq, h.current_eq]
    exact Placement.insertionPoint_of_start rfl hd hquiet hstart
  have hnone := Placement.existingStub?_eq_none_of_append (congrArg Buffer.lines h.buffer_eq) hdef
  rw [← hpoint] at hnone ⊢
  exact Action.plan_of_none hnone

include hr

lemma step_new (h : Batch A R crlf style line d hs p) (hhs : ∀ g ∈ hs, Proper g) {scope : Scope} {c : Call}
    (hc : Proper (c.head scope)) (hA : ∀ z ∈ A, Signature.defines c.name z = false)
    (hn : c.name ∉ hs.map Stub.Head.name) :
    Batch A R crlf style line d (hs ++ [c.head scope]) (step .free scope line p c) := by
  have hplan : Action.plan p.session.buffer p.current c.name = _ := h.plan_eq hi hd hstart hquiet hhs hc.name hA hn
  have hskip : p.session.memory.skips c.name line = false := by
    rw [← Bool.not_eq_true, h.skips, h.processed]
    exact hn
  obtain ⟨hb, hm, hs', hcur, ha⟩ := step_of_free h.clean.wellFormed hc.feedless hskip (rfl : Gate.free _ = false)
  have hclean := Action.clean_result h.clean (Action.plan p.session.buffer p.current c.name)
    (h.style_eq.symm ▸ hr : Text.includes "\r\n".toList p.session.style.indent = false) hc.feedless
  have hlines : p.session.buffer.lines = (A ++ hs.flatMap (Stub.lines style)) ++ [] ++ R := by
    rw [h.buffer_eq, List.append_nil]
  have hR : R ≠ [] := List.ne_nil_of_length_pos (Nat.zero_lt_of_lt hd)
  have hblock := Buffer.withBlock_of_tidy hlines h.clean.tidy hR (Stub.lines style (c.head scope))
  rw [List.length_nil, Nat.add_zero, map_dropReturn_eq (Stub.dropReturn_lines hr _)] at hblock
  refine ⟨hb ▸ hclean, ?_, hs'.trans h.style_eq, ?_, fun f => ?_, fun f => ?_, ?_⟩
  · rw [hb, hplan, h.style_eq, Action.result, Action.range, hblock, h.buffer_eq]
    simp
  · rw [hcur, hplan, h.style_eq, Action.shift, if_pos (by rw [h.current_eq]; exact Nat.le_add_right _ _), h.current_eq]
    simp only [List.flatMap_append, List.flatMap_singleton, List.length_append]
    omega
  · rw [hm, Memory.mem_processed_record, h.processed, List.map_append, List.mem_append, or_comm,
      List.map_singleton, List.mem_singleton]
    rfl
  · rw [hm]
    exact Memory.skips_record _ _ _ _
  · rw [ha, hplan, h.actions_eq, Action.insertions_concat, List.length_append]
    rfl

lemma run_firsts (h : Batch A R crlf style line d [] p) {scope : Scope} {cs : List Call}
    (hcs : ∀ c ∈ cs, Proper (c.head scope) ∧ ∀ z ∈ A, Signature.defines c.name z = false) :
    Batch A R crlf style line d ((Call.firsts cs).map (Call.head scope)) (cs.foldl (step .free scope line) p) := by
  induction cs using List.reverseRecOn with
  | nil => exact h
  | append_singleton cs c ih =>
    have hnames : ((Call.firsts cs).map (Call.head scope)).map Stub.Head.name = (cs.map Call.name).eraseDups := by
      rw [← Call.map_name_firsts, List.map_map]
      rfl
    have ih := ih fun d hd => hcs d (List.mem_append_left _ hd)
    obtain ⟨hc, hA⟩ := hcs c (List.mem_append_right _ (List.mem_singleton_self c))
    rw [List.foldl_append, List.foldl_cons, List.foldl_nil, Call.firsts_concat]
    split_ifs with hm
    · have hskip := (ih.skips c.name).2 ((ih.processed c.name).2 (by rwa [hnames, List.mem_eraseDups]))
      rwa [step, if_pos hskip]
    · rw [List.map_append, List.map_singleton]
      refine ih.step_new hi hr hd hstart hquiet (fun g hg => ?_) hc hA (by rwa [hnames, List.mem_eraseDups])
      obtain ⟨f, hf, rfl⟩ := List.mem_map.1 hg
      exact (hcs f (List.mem_append_left _ (Call.firsts_subset cs hf))).1

end Step

end Batch

/-- If the place for stubs is the start of a function and no line above defines a callee, the stubs go there one below
the other: one for each function, for the call that comes first, with the types in scope before any stub was written. -/
theorem calls_inserted_as_block (t : Text) (style : Stub.Style) (hi : Text.isBlankText style.indent = true)
    (hr : Text.includes "\r\n".toList style.indent = false) (l : Nat) (ht : Text.includes "\r\r".toList t = false)
    (hstart : Placement.startsFunction (.ofText t) (Placement.insertionPoint (.ofText t) l) = true)
    (hfresh : ∀ c ∈ callsAt (.ofText t) l, ∀ z ∈ (Buffer.ofText t).lines.take (Placement.insertionPoint (.ofText t) l),
      Signature.defines c.name z = false) :
    let b := Buffer.ofText t
    let i := Placement.insertionPoint b l
    let p := process .free (start style b) l
    let heads := (Call.firsts (callsAt b l)).map (Call.head (scopeAbove b l))
    let stubs := heads.flatMap (Stub.lines style)
    heads.map Stub.Head.name = ((callsAt b l).map Call.name).eraseDups ∧
      p.session.buffer = ⟨b.lines.take i ++ stubs ++ b.lines.drop i, b.crlf⟩ ∧
      p.actions = Action.insertions style i heads ∧
      p.current = l + stubs.length ∧ p.session.buffer.line? p.current = b.line? l := by
  intro b i p heads stubs
  have hb : b.Clean := Buffer.clean_ofText ht
  have hil : i ≤ l := Placement.insertionPoint_le b l
  have hcut : b.lines.take i ++ b.lines.drop i = b.lines := List.take_append_drop i b.lines
  refine ⟨by simp only [heads, List.map_map, ← Call.map_name_firsts]; rfl, ?_⟩
  rcases List.eq_nil_or_concat' (callsAt b l) with hnil | ⟨cs, c, hcs⟩
  · have hp : p = ⟨start style b, l, [], []⟩ := by simp only [p, process, start, hnil, List.foldl_nil]
    have hheads : heads = [] := by simp only [heads, hnil]; rfl
    have hstubs : stubs = [] := by simp only [stubs, hheads, List.flatMap_nil]
    rw [hp, hheads, hstubs, List.append_nil, hcut]
    exact ⟨rfl, rfl, rfl, rfl⟩
  · have hl : l < b.lineCount := lt_of_mem_callsAt (hcs ▸ List.mem_concat_self : c ∈ callsAt b l)
    have hlen : (b.lines.take i).length = i := List.length_take_of_le (hil.trans hl.le)
    have hd : l - i < (b.lines.drop i).length := by
      rw [List.length_drop]
      exact Nat.sub_lt_sub_right hil hl
    have hfirst : Batch (b.lines.take i) (b.lines.drop i) b.crlf style l (l - i) [] ⟨start style b, l, [], []⟩ := by
      refine ⟨hb, ?_, rfl, ?_, by simp [start, Memory.empty], by simp [start, Memory.empty, Memory.skips], rfl⟩
      · rw [List.flatMap_nil, List.append_nil, hcut]
        rfl
      · rw [List.flatMap_nil, List.append_nil, hlen, Nat.add_sub_cancel' hil]
    have hstart' := (Placement.startsFunction_drop (hil.trans hl.le) b.crlf 0).symm.trans hstart
    have hlast : Batch _ _ _ _ _ _ heads p := hfirst.run_firsts hi hr hd hstart' (Placement.insertionPoint_drop hl b.crlf).2
      fun c hc => ⟨⟨head_feedless hb.wellFormed hc, Call.isWordText_name hc, Call.spelling_returnType hc⟩, hfresh c hc⟩
    have hcur : p.current = l + stubs.length := by
      have hsum : i + stubs.length + (l - i) = l + stubs.length := by omega
      rw [hlast.current_eq, List.length_append, hlen, hsum]
    refine ⟨hlast.buffer_eq, hlen ▸ hlast.actions_eq, hcur, ?_⟩
    rw [hlast.current_eq, hlast.buffer_eq, Buffer.line?, List.getElem?_append_right (Nat.le_add_right _ _),
      Nat.add_sub_cancel_left, List.getElem?_drop, Nat.add_sub_cancel' hil]
    rfl

theorem calls_inserted_above_split_head :
    let t : Text := "#include <cmath>\nint solve(int n,\n    double m)\n\x7b\n    double x = f(g(m), f(2));\n\x7d\n".toList
    let b := Buffer.ofText t
    let p := process .free (start .standard b) 4
    let f : Stub.Head := ⟨"f".toList, ["int arg0".toList, "int arg1".toList], "double".toList⟩
    let g : Stub.Head := ⟨"g".toList, ["double m".toList], "double".toList⟩
    (callsAt b 4).map Call.name = ["f".toList, "g".toList, "f".toList] ∧
      p.session.buffer = ⟨b.lines.take 1 ++ [f, g].flatMap (Stub.lines .standard) ++ b.lines.drop 1, b.crlf⟩ ∧
      p.actions = [.inserted "f".toList 1, .inserted "g".toList 6] ∧ p.current = 14 := by
  intro t b p f g
  have hi : Placement.insertionPoint (.ofText t) 4 = 1 := by decide +kernel
  have hheads : (Call.firsts (callsAt (.ofText t) 4)).map (Call.head (scopeAbove (.ofText t) 4)) = [f, g] := by
    decide +kernel
  have h := calls_inserted_as_block t .standard (by decide) (by decide) 4 (by decide +kernel)
    (by decide +kernel) (by decide +kernel)
  simp only [hi, hheads] at h
  obtain ⟨-, hbuffer, hactions, hcurrent, -⟩ := h
  simp only [p, b]
  exact ⟨by decide +kernel, hbuffer, hactions.trans (by decide +kernel), hcurrent.trans (by decide +kernel)⟩

/-- An indent that holds a definition of its own: the stub of the second call takes the place of that definition, inside
the stub of the first. -/
theorem call_replaces_indent :
    let t : Text := "int main() \x7b\n    int x = f(1) + g(2);\n\x7d\n".toList
    let b := Buffer.ofText t
    let style : Stub.Style := ⟨"int g(int z) \x7b\n\x7d\n".toList⟩
    Text.includes "\r\r".toList t = false ∧ Placement.insertionPoint b 1 = 0 ∧
      Placement.startsFunction b 0 = true ∧ (callsAt b 1).map Call.name = ["f".toList, "g".toList] ∧
      (process .free (start style b) 1).actions = [.inserted "f".toList 0, .replaced "g".toList ⟨1, 3⟩] := by
  decide +kernel

end Session

end CallStubs
