import CallStubs.Proofs.Turns

/-! When a call that is typed again takes over the stub that was inserted for it. -/

namespace CallStubs

namespace Signature

lemma hasMain_word {w : Text} (hw : ∀ c ∈ w, Text.isWord c = true) (u : Text) :
    hasMain true (w ++ u) = hasMain true u := by
  induction w with
  | nil => rfl
  | cons c w ih =>
    rw [List.cons_append, hasMain, hw c List.mem_cons_self, ih fun d hd => hw d (List.mem_cons_of_mem c hd)]
    simp

lemma opensMain_word {f : Text} (hf : Text.isWordText f = true) :
    opensMain (f ++ "()".toList) = true ↔ f = "main".toList := by
  constructor
  · intro h
    unfold opensMain at h
    split at h
    · rename_i r hr
      rw [List.isPrefixOf?_eq_some_iff_append_eq] at hr
      split at h
      · rename_i q hq
        obtain ⟨d, hd, hdr⟩ := Text.exists_append_skipBlanks r
        rw [hq] at hdr
        -- Both `f` and `main` are the whole word that the text starts with.
        have hu : Text.Unword r := by
          rw [hdr]
          exact Text.unword_blank_append hd ((Text.unword_cons _ _).2 (by decide))
        have hmain := Text.word?_append (w := "main".toList) (by decide) hu
        have hname := Text.word?_append (r := "()".toList) hf ((Text.unword_cons '(' [')']).2 (by decide))
        rw [hr, hname] at hmain
        exact (Prod.mk.inj (Option.some.inj hmain)).1
      · simp at h
    · simp at h
  · rintro rfl
    decide

lemma hasMain_call {f : Text} (hf : Text.isWordText f = true) :
    hasMain false (f ++ "()".toList) = true ↔ f = "main".toList := by
  rw [← opensMain_word hf]
  obtain ⟨hn, hall⟩ := Text.isWordText_iff.1 hf
  obtain ⟨c, w, rfl⟩ := List.exists_cons_of_ne_nil hn
  have htail := hasMain_word (fun d hd => hall d (List.mem_cons_of_mem c hd)) "()".toList
  rw [List.cons_append, hasMain, hall c List.mem_cons_self, htail]
  simp only [Bool.not_false, Bool.true_and, Bool.or_eq_true]
  exact or_iff_left (by decide)

end Signature

namespace Stub

lemma opening?_todo (name : Text) : Signature.opening? (todo name) = none := rfl

lemma isHead_todo {name : Text} (hn : Text.isWordText name = true) :
    Signature.isHead (todo name) = true ↔ name = "main".toList := by
  have hscan : Signature.hasMain false ("// TODO: implement ".toList ++ (name ++ "()".toList)) =
      Signature.hasMain false (name ++ "()".toList) := rfl
  rw [Signature.isHead, opening?_todo, Option.any_none, Bool.false_or, todo_eq, hscan, Signature.hasMain_call hn]

lemma returnText_not_head : ∀ v ∈ values, Signature.isHead (Text.trim (returnText v)) = false ∧
    Signature.opensHead (Text.trim (returnText v)) = false := by
  decide +kernel

lemma inner_not_head {h : Head} (hn : Text.isWordText h.name = true) {t : Text} (ht : t ∈ inner h) :
    (Signature.isHead (Text.trim t) = true → h.name = "main".toList) ∧ Signature.opensHead (Text.trim t) = false := by
  rcases mem_inner ht with rfl | ⟨v, hv, rfl⟩
  · rw [trim_todo]
    exact ⟨(isHead_todo hn).1, by rw [Signature.opensHead, opening?_todo, Option.any_none]⟩
  · have hr := returnText_not_head v hv
    exact ⟨fun h => by simp [hr.1] at h, hr.2⟩

section Blank

variable {style : Style} (hi : Text.isBlankText style.indent = true) {h : Head}

include hi

lemma tail_not_head (hn : Text.isWordText h.name = true) {l : Text}
    (hl : l ∈ innerLines style h ++ ["\x7d".toList, []]) :
    (Signature.isHead (Text.trim l) = true → h.name = "main".toList) ∧
      Signature.opensHead (Text.trim l) = false := by
  rcases trim_of_mem_tail hi hl with ⟨t, ht, htrim⟩ | hend
  · rw [htrim]
    exact inner_not_head hn ht
  · have hno : ∀ t ∈ ["\x7d".toList, []], Signature.isHead t = false ∧ Signature.opensHead t = false := by decide
    exact ⟨fun h => by simp [(hno _ hend).1] at h, (hno _ hend).2⟩

lemma exists_todo_line (h : Head) : ∃ j, 0 < j ∧ j < (lines style h).length ∧
    (lines style h)[j]?.map Text.trim = some (todo h.name) := by
  have hm : style.margin ++ todo h.name ∈ innerLines style h :=
    mem_innerLines.2 (Or.inr ⟨_, todo_mem_inner h, rfl⟩)
  obtain ⟨j, hj, he⟩ := List.getElem_of_mem (List.mem_append_left ["\x7d".toList, []] hm)
  refine ⟨j + 1, Nat.succ_pos j, Nat.succ_lt_succ hj, ?_⟩
  rw [lines_eq, List.getElem?_cons_succ, List.getElem?_eq_getElem hj, he, Option.map_some,
    Text.trim_blank_append (Style.blank_margin hi), trim_todo]

end Blank

end Stub

namespace Placement

lemma startsFunction_stub {style : Stub.Style} (hi : Text.isBlankText style.indent = true) {h : Stub.Head}
    (hn : Text.isWordText h.name = true)
    (hm : h.name ≠ "main".toList) {j : Nat} (hj : 0 < j) (hk : j < (Stub.lines style h).length) (R : List Text)
    (crlf : Bool) : startsFunction ⟨Stub.lines style h ++ R, crlf⟩ j = false := by
  obtain ⟨d, rfl⟩ : ∃ d, j = d + 1 := ⟨j - 1, by omega⟩
  have hline : (Stub.lines style h ++ R)[d + 1]? = some (Stub.lines style h)[d + 1] := by
    rw [List.getElem?_append_left hk, List.getElem?_eq_getElem hk]
  have hz : (Stub.lines style h)[d + 1] ∈ Stub.innerLines style h ++ ["\x7d".toList, []] := by
    simp only [Stub.lines_eq, List.getElem_cons_succ]
    exact List.getElem_mem _
  obtain ⟨hhead, hopen⟩ := Stub.tail_not_head hi hn hz
  have hhead := Bool.eq_false_iff.2 fun hc => hm (hhead hc)
  simp [startsFunction, Buffer.trimmed, Buffer.line?, hline, hhead, hopen]

lemma insertionPoint_below_stub {b : Buffer} {l : Nat} (hl : l < b.lineCount) {style : Stub.Style}
    (hblank : Text.isBlankText style.indent = true) {h : Stub.Head} (hn : Text.isWordText h.name = true) :
    let i := insertionPoint b l
    let ls := Stub.lines style h
    i < insertionPoint (b.withBlock i i ls) (l + ls.length) ↔
      startsFunction b i = true ∨ h.name = "main".toList := by
  intro i ls
  have hle : i ≤ l := insertionPoint_le b l
  have hi : i < b.lineCount := hle.trans_lt hl
  have hpos : 0 < ls.length := by simp [ls, Stub.length_lines]
  have hcount : l + ls.length < (b.withBlock i i ls).lineCount := by
    rw [Buffer.lineCount_withBlock hi]
    omega
  obtain ⟨hstart, hfree⟩ := nearestStart_spec b l
  rw [← insertionPoint_of_lt hl] at hstart hfree
  rw [insertionPoint_of_lt hcount]
  constructor
  · intro hlt
    by_contra hno
    rw [not_or, Bool.not_eq_true] at hno
    have hzero : i = 0 := hstart.resolve_left (by simp [i, hno.1])
    have hnear : nearestStart (b.withBlock i i ls) (l + ls.length) = 0 := by
      refine nearestStart_eq (Or.inr rfl) (Nat.zero_le _) fun j hj hjl => ?_
      by_cases hk : ls.length ≤ j
      · obtain ⟨d, rfl⟩ := Nat.exists_eq_add_of_le hk
        have hd := startsFunction_below hi ls d
        rw [hzero, Nat.zero_add, Nat.zero_add] at hd
        rw [hzero, hd]
        rcases Nat.eq_zero_or_pos d with rfl | hd
        · exact hzero ▸ hno.1
        · exact hfree d (by omega) (by omega)
      · have hd := startsFunction_withBlock hi ls j
        rw [hzero, Nat.zero_add] at hd
        rw [hzero, hd]
        exact startsFunction_stub hblank hn hno.2 hj (Nat.lt_of_not_le hk) _ _
    omega
  · rintro (hs | hmain)
    · have hk := le_nearestStart (i := l + ls.length) ((startsFunction_below hi ls 0).trans hs) (by omega)
      omega
    · obtain ⟨j, hpos, hj, htrim⟩ := Stub.exists_todo_line hblank h
      change j < ls.length at hj
      change ls[j]?.map Text.trim = _ at htrim
      have htodo : startsFunction (b.withBlock i i ls) (i + j) = true := by
        have hhead := (Stub.isHead_todo hn).2 hmain
        rw [startsFunction_withBlock hi]
        simp [startsFunction, Buffer.trimmed, Buffer.line?, List.getElem?_append_left hj, htrim, hhead]
      have hk := le_nearestStart (i := l + ls.length) htodo (by omega)
      omega

end Placement

lemma Action.plan_below_stub {b : Buffer} {l : Nat} (hl : l < b.lineCount) {style : Stub.Style}
    (hblank : Text.isBlankText style.indent = true) {h : Stub.Head} (hf : h.Feedless)
    (hs : TypeName.Spelling h.returnType) (hn : Text.isWordText h.name = true) :
    let i := Placement.insertionPoint b l
    let ls := Stub.lines style h
    plan (b.withBlock i i ls) (l + ls.length) h.name = .replaced h.name ⟨i, i + ls.length⟩ ↔
      Text.isWordText h.returnType = true ∧ (∀ z ∈ b.lines.take i, Signature.defines h.name z = false) ∧
        (Placement.startsFunction b i = true ∨ h.name = "main".toList) := by
  intro i ls
  have hi : i < b.lineCount := (Placement.insertionPoint_le b l).trans_lt hl
  have hlen : ((b.lines.take i).map dropReturn).length = i := by
    rw [List.length_map, List.length_take_of_le hi.le]
  have hlines : (b.withBlock i i ls).lines =
      (b.lines.take i).map dropReturn ++ ls.map dropReturn ++ (b.lines.drop i).map dropReturn := by
    rw [Buffer.withBlock, Buffer.linesFrom, if_pos hi, List.map_append, List.map_append]
  have habove : (∀ z ∈ (b.lines.take i).map dropReturn, Signature.defines h.name z = false) ↔
      ∀ z ∈ b.lines.take i, Signature.defines h.name z = false := by
    simp only [List.forall_mem_map, Signature.defines_dropReturn]
  have hbelow : i < Placement.insertionPoint (b.withBlock i i ls) (l + ls.length) ↔ _ :=
    Placement.insertionPoint_below_stub hl hblank hn
  have hhead : Signature.defines h.name (Stub.headLine h) = true ↔ Text.isWordText h.returnType = true := by
    rw [Stub.defines_headLine_iff hf hs hn hn, eq_self, true_and]
  rw [← hbelow, ← habove, ← hhead]
  constructor
  · intro hp
    rcases plan_cases (b.withBlock i i ls) (l + ls.length) h.name with ⟨-, hq⟩ | ⟨D, hD, hb, hd, hq⟩
    · simp [hp] at hq
    · rw [hp, Action.replaced.injEq] at hq
      have hstart : D.above.length = i := by
        have hs := congrArg LineRange.start hq.2
        rw [withSeparator_start] at hs
        exact hs.symm
      rw [hlines, Placement.Definition.lines, List.append_assoc] at hD
      obtain ⟨hA, hR⟩ := List.append_inj hD (hstart.trans hlen.symm)
      have hfirst : D.head = Stub.headLine h := by
        have hls : ls.map dropReturn = Stub.headLine h :: _ := Stub.map_dropReturn_lines style h
        rw [hls, List.cons_append] at hR
        exact (List.cons.inj hR).1
      exact ⟨hfirst ▸ D.defines, hA ▸ hd, hstart ▸ hb⟩
  · rintro ⟨hd, hA, hlt⟩
    have hp := plan_of_stub hlines hblank hd hA (i := l + ls.length) (hlen.symm ▸ hlt)
    rwa [hlen] at hp

lemma Call.map_name_extract (T T' : Text → Option Text) (t : Text) :
    (extract T t).map Call.name = (extract T' t).map Call.name := by
  rw [extract, extract, List.map_append, List.map_append]
  congr 1
  cases Assignment.ofText? t with
  | none => rfl
  | some a => simp [ofAssignment, Function.comp_def]

namespace Session

lemma process_single {b : Buffer} (hb : b.WellFormed) (style : Stub.Style) {l : Nat} {c : Call}
    (hc : callsAt b l = [c]) :
    let p := process .free (start style b) l
    p.actions = [Action.plan b l c.name] ∧
      p.session.buffer = (Action.plan b l c.name).result b (Stub.lines style (c.head (scopeAbove b l))) := by
  have hf := head_feedless hb (hc ▸ List.mem_singleton_self c : c ∈ callsAt b l)
  have hstep := @step_of_free .free (scopeAbove b l) l ⟨start style b, l, [], []⟩ hb c hf rfl rfl
  simp only [process, start, hc, List.foldl_cons, List.foldl_nil] at hstep ⊢
  exact ⟨hstep.2.2.2.2, hstep.1⟩

/-- A call whose stub was inserted before line `i` is typed again where it stands now. The stub is replaced as a
whole if and only if its type is one word, no line above it looks like a definition of the function, and the
place for stubs has moved below it. -/
theorem retyping_replaces_iff {b : Buffer} (hb : b.WellFormed) (style : Stub.Style)
    (hblank : Text.isBlankText style.indent = true) {l i : Nat} {c : Call} {f : Text} (hc : callsAt b l = [c])
    (hi : (process .free (start style b) l).actions = [.inserted f i]) :
    let k := Stub.span (Stub.render style (c.head (scopeAbove b l)))
    let b' := (process .free (start style b) l).session.buffer
    (process .free (start style b') (l + k)).actions = [.replaced f ⟨i, i + k⟩] ↔
      Text.isWordText c.returnType = true ∧ (∀ z ∈ b.lines.take i, Signature.defines c.name z = false) ∧
        (Placement.startsFunction b i = true ∨ c.name = "main".toList) := by
  intro k b'
  have hmem : c ∈ callsAt b l := hc ▸ List.mem_singleton_self c
  have hf := head_feedless hb hmem
  have hl := lt_of_mem_callsAt hmem
  have hbuf : b' = _ := (process_single hb style hc).2
  rw [(process_single hb style hc).1, List.singleton_inj] at hi
  obtain ⟨rfl, rfl⟩ : f = c.name ∧ i = Placement.insertionPoint b l := by
    rcases Action.plan_cases b l c.name with ⟨-, hp⟩ | ⟨D, -, -, -, hp⟩
    · rw [hp] at hi
      simpa using hi.symm
    · simp [hp] at hi
  have hk : k = (Stub.lines style (c.head (scopeAbove b l))).length := Stub.span_render style hf
  have hwf : b'.WellFormed := by
    rw [hbuf]
    exact Action.wellFormed_result hb l c.name (Stub.feedless_lines style hf)
  rw [hi, Action.result, Action.range] at hbuf
  have hle := Placement.insertionPoint_le b l
  have htrim : b'.trimmed (l + k) = b.trimmed l := by
    have hline := Buffer.line?_withBlock le_rfl hle hl (Stub.lines style (c.head (scopeAbove b l)))
    rw [← hbuf, ← hk, Nat.add_right_comm, Nat.add_sub_cancel' hle] at hline
    rw [Buffer.trimmed, hline, Option.map_map, Buffer.trimmed]
    simp [Function.comp_def, Text.trim_dropReturn]
  have hnames : (callsAt b' (l + k)).map Call.name = [c.name] := by
    rw [callsAt, htrim, Call.map_name_extract _ (scopeAbove b l).typeOf?]
    exact (congrArg (List.map Call.name) hc).trans rfl
  obtain ⟨d, hd, hname⟩ := List.map_eq_singleton_iff.1 hnames
  rw [(process_single hwf style hd).1, hname, List.singleton_inj, hk, hbuf]
  exact Action.plan_below_stub hl hblank hf (Call.spelling_returnType hmem) (Call.isWordText_name hmem)

theorem retyping_replaces_in_main :
    let b := Buffer.ofText "int main() \x7b\n    double x = f(1);\n\x7d\n".toList
    let c : Call := ⟨"f".toList, ["1".toList], "double".toList⟩
    let k := Stub.span (Stub.render .standard (c.head (scopeAbove b 1)))
    let b' := (process .free (start .standard b) 1).session.buffer
    k = 5 ∧ (process .free (start .standard b') (1 + k)).actions = [.replaced "f".toList ⟨0, 0 + k⟩] := by
  intro b c k b'
  have hcalls : callsAt b 1 = [c] := by decide +kernel
  have hfirst : (process .free (start .standard b) 1).actions = [.inserted "f".toList 0] := by decide +kernel
  have hretyped := retyping_replaces_iff (Buffer.wellFormed_ofText _) .standard (by decide) hcalls hfirst
  exact ⟨by decide +kernel, hretyped.2 (by decide +kernel)⟩

/-- With no function around the call, the stub for it is not found again, nor is one whose type is two words. -/
theorem retyping_duplicates_stub :
    let b := Buffer.ofText "x = f(1);\n\n\n".toList
    let b' := (process .free (start .standard b) 0).session.buffer
    let d := Buffer.ofText "int main() \x7b\n    long long x;\n    x = f(1);\n\x7d\n".toList
    let d' := (process .free (start .standard d) 2).session.buffer
    ((process .free (start .standard b) 0).actions = [.inserted "f".toList 0] ∧ b'.lineCount = b.lineCount + 5 ∧
      (process .free (start .standard b') (0 + 5)).actions = [.inserted "f".toList 0]) ∧
    (process .free (start .standard d) 2).actions = [.inserted "f".toList 0] ∧ d'.lineCount = d.lineCount + 5 ∧
      (process .free (start .standard d') (2 + 5)).actions = [.inserted "f".toList 5] := by
  decide +kernel

end Session

end CallStubs
