import CallStubs.Proofs.Location
import Mathlib.Order.Nat

/-! What the searches through the lines of a buffer find, told by the least numbers of the lines looked for. -/

namespace CallStubs

namespace Buffer

variable {b : Buffer} {p : Text → Prop} {i : Nat}

def linesWhere (b : Buffer) (p : Text → Prop) : Set Nat :=
  {k | ∃ l ∈ b.line? k, p l}

lemma add_mem_linesWhere {k : Nat} : i + k ∈ b.linesWhere p ↔ ∃ l ∈ (b.lines.drop i)[k]?, p l := by
  rw [List.getElem?_drop]
  rfl

lemma isLeast_of_findIdx? {q : Text → Bool} {k : Nat} (h : (b.lines.drop i).findIdx? q = some k) :
    IsLeast {j ∈ b.linesWhere (q · = true) | i ≤ j} (i + k) := by
  obtain ⟨hk, hq, hfirst⟩ := List.findIdx?_eq_some_iff_getElem.1 h
  refine ⟨⟨add_mem_linesWhere.2 ⟨_, List.getElem?_eq_getElem hk, hq⟩, Nat.le_add_right i k⟩, ?_⟩
  rintro j ⟨hj, hij⟩
  obtain ⟨d, rfl⟩ := Nat.exists_eq_add_of_le hij
  obtain ⟨l, hl, hql⟩ := add_mem_linesWhere.1 hj
  obtain ⟨hd, rfl⟩ := List.getElem?_eq_some_iff.1 hl
  by_contra hlt
  exact hfirst d (by omega) hql

lemma findIdx?_drop_eq_some_iff {q : Text → Bool} {j : Nat} :
    ((b.lines.drop i).findIdx? q).map (· + i) = some j ↔ IsLeast {k ∈ b.linesWhere (q · = true) | i ≤ k} j := by
  rw [Option.map_eq_some_iff]
  constructor
  · rintro ⟨k, hk, rfl⟩
    rw [Nat.add_comm]
    exact isLeast_of_findIdx? hk
  · intro hj
    obtain ⟨d, rfl⟩ := Nat.exists_eq_add_of_le hj.1.2
    obtain ⟨l, hl, hq⟩ := add_mem_linesWhere.1 hj.1.1
    -- The search finds some line, and there is only one least number.
    have hfound : ((b.lines.drop i).findIdx? q).isSome = true := by
      rw [List.findIdx?_isSome, List.any_eq_true]
      exact ⟨l, List.mem_of_getElem? hl, hq⟩
    obtain ⟨k, hk⟩ := Option.isSome_iff_exists.1 hfound
    exact ⟨k, hk, (Nat.add_comm k i).trans ((isLeast_of_findIdx? hk).unique hj)⟩

end Buffer

lemma Signature.bodyFollows_iff {ls : List Text} : bodyFollows ls = true ↔
    ∃ j, (∃ l ∈ ls[j]?, '{' ∈ l) ∧ ∀ k, (∃ l ∈ ls[k]?, ')' ∈ l) → j ≤ k + 1 := by
  induction ls with
  | nil => simp [bodyFollows]
  | cons l ls ih =>
    simp only [bodyFollows, Bool.or_eq_true, List.contains_iff_mem]
    constructor
    · rintro (ho | h)
      · exact ⟨0, ⟨l, rfl, ho⟩, fun _ _ => Nat.zero_le _⟩
      · split_ifs at h with hc
        · rw [Option.any_eq_true, List.head?_eq_getElem?] at h
          obtain ⟨m, hm, ho⟩ := h
          exact ⟨1, ⟨m, hm, List.contains_iff_mem.1 ho⟩, fun k _ => Nat.le_add_left 1 k⟩
        · obtain ⟨j, hj, hreach⟩ := ih.1 h
          refine ⟨j + 1, hj, fun k hk => ?_⟩
          cases k with
          | zero =>
            obtain ⟨m, hm, hmc⟩ := hk
            obtain rfl := Option.some.inj hm
            exact absurd hmc hc
          | succ k => exact Nat.succ_le_succ (hreach k hk)
    · rintro ⟨j, hj, hreach⟩
      cases j with
      | zero =>
        obtain ⟨m, hm, ho⟩ := hj
        obtain rfl := Option.some.inj hm
        exact Or.inl ho
      | succ j =>
        right
        split_ifs with hc
        · -- The parameters end on this line, so the brace is in the next one at the latest.
          obtain rfl : j = 0 := Nat.le_zero.1 (Nat.le_of_succ_le_succ (hreach 0 ⟨l, rfl, hc⟩))
          obtain ⟨m, hm, ho⟩ := hj
          rw [Option.any_eq_true, List.head?_eq_getElem?]
          exact ⟨m, hm, List.contains_iff_mem.2 ho⟩
        · exact ih.2 ⟨j, hj, fun k hk => Nat.le_of_succ_le_succ (hreach (k + 1) hk)⟩

namespace Placement

def startsSplitHead (b : Buffer) (i : Nat) : Bool :=
  Signature.opensHead (b.trimmed i) && Signature.bodyFollows (b.lines.drop (i + 1))

lemma startsFunction_eq (b : Buffer) (i : Nat) :
    startsFunction b i = (Signature.isHead (b.trimmed i) || startsSplitHead b i) := rfl

lemma forall_isLeast_iff {s : Set Nat} {j : Nat} :
    (∀ p, IsLeast s p → j ≤ p + 1) ↔ ∀ k ∈ s, j ≤ k + 1 := by
  classical
  constructor
  · intro h k hk
    have hp := Set.Nonempty.isLeast_natFind ⟨k, hk⟩
    exact (h _ hp).trans (Nat.succ_le_succ (hp.2 hk))
  · exact fun h p hp => h p hp.1

lemma startsSplitHead_iff {b : Buffer} {i : Nat} : startsSplitHead b i = true ↔
    Signature.OpensHead (b.trimmed i) ∧
      ∃ j ∈ b.linesWhere ('{' ∈ ·), i < j ∧ ∀ k ∈ b.linesWhere (')' ∈ ·), i < k → j ≤ k + 1 := by
  rw [startsSplitHead, Bool.and_eq_true, Signature.opensHead_iff, Signature.bodyFollows_iff]
  simp only [← Buffer.add_mem_linesWhere]
  refine and_congr_right fun _ => ⟨?_, ?_⟩
  · rintro ⟨j, hj, hreach⟩
    refine ⟨i + 1 + j, hj, by omega, fun k hk hik => ?_⟩
    obtain ⟨d, rfl⟩ := Nat.exists_eq_add_of_le (Nat.succ_le_of_lt hik)
    have hd := hreach d hk
    omega
  · rintro ⟨j, hj, hij, hreach⟩
    obtain ⟨d, rfl⟩ := Nat.exists_eq_add_of_le (Nat.succ_le_of_lt hij)
    refine ⟨d, hj, fun k hk => ?_⟩
    have hd := hreach (i + 1 + k) hk (by omega)
    omega

/-- A head that goes on below is taken for one exactly if a later line has an opening brace in it and is at most one line
below the first one with a closing parenthesis. Such a head is never a whole one. -/
theorem split_head_iff_brace_follows (b : Buffer) (i : Nat) :
    (startsSplitHead b i = true ↔ Signature.OpensHead (b.trimmed i) ∧
      ∃ j ∈ b.linesWhere ('{' ∈ ·), i < j ∧ ∀ p, IsLeast {k ∈ b.linesWhere (')' ∈ ·) | i < k} p → j ≤ p + 1) ∧
    (Signature.OpensHead (b.trimmed i) → startsFunction b i = startsSplitHead b i) := by
  constructor
  · rw [startsSplitHead_iff]
    simp only [forall_isLeast_iff, Set.mem_ofPred_eq, and_imp]
  · intro h
    rw [startsFunction_eq, h.isHead_eq_false, Bool.false_or]

theorem split_head_iff_brace_follows_at_reach :
    let b : Buffer := ⟨["int solve(int n,".toList, "  int m".toList, ")".toList, "\x7b".toList], true⟩
    Signature.OpensHead (b.trimmed 0) ∧ IsLeast {k ∈ b.linesWhere (')' ∈ ·) | 0 < k} 2 ∧
      3 ∈ b.linesWhere ('{' ∈ ·) ∧ startsFunction b 0 = true := by
  intro b
  have hopen : Signature.OpensHead (b.trimmed 0) := Signature.opensHead_iff.1 (by decide)
  have hclose : IsLeast {k ∈ b.linesWhere (')' ∈ ·) | 0 < k} 2 := by
    refine ⟨⟨⟨_, rfl, by decide⟩, by decide⟩, ?_⟩
    rintro k ⟨⟨l, hl, hc⟩, hk⟩
    by_contra hlt
    obtain rfl : k = 1 := by omega
    obtain rfl := Option.some.inj hl
    exact absurd hc (by decide)
  have hbrace : 3 ∈ b.linesWhere ('{' ∈ ·) := ⟨_, rfl, by decide⟩
  obtain ⟨hiff, hwhole⟩ := split_head_iff_brace_follows b 0
  refine ⟨hopen, hclose, hbrace, (hwhole hopen).trans (hiff.2 ⟨hopen, 3, hbrace, by decide, fun p hp => ?_⟩)⟩
  rw [hp.unique hclose]

section Definitions

variable {b : Buffer} {name : Text} {r : LineRange}

lemma closingLine?_eq_some_iff {i j : Nat} : closingLine? b i = some j ↔
    IsLeast {k ∈ b.linesWhere (Text.trim · = "\x7d".toList) | i < k} j := by
  simp only [closingLine?, Buffer.findIdx?_drop_eq_some_iff, closesBody_iff, Nat.succ_le_iff]

lemma definitionAt?_eq_some_iff_isLeast {i : Nat} : definitionAt? b name i = some r ↔
    i ∈ b.linesWhere (Signature.Defines name) ∧ r.start = i ∧
      IsLeast {k ∈ b.linesWhere (Text.trim · = "\x7d".toList) | i < k} (r.stop - 1) := by
  have hdefines : (b.line? i).any (Signature.defines name) = true ↔ i ∈ b.linesWhere (Signature.Defines name) := by
    simp only [Option.any_eq_true, Signature.defines_iff]
    rfl
  rw [definitionAt?, ← hdefines]
  split_ifs with hd
  · simp only [hd, true_and, Option.map_eq_some_iff, closingLine?_eq_some_iff]
    constructor
    · rintro ⟨j, hj, rfl⟩
      exact ⟨rfl, hj⟩
    · rintro ⟨rfl, hj⟩
      have hlt : r.start < r.stop - 1 := hj.1.2
      refine ⟨r.stop - 1, hj, ?_⟩
      rw [Nat.sub_add_cancel (by omega)]
  · simp [hd]

lemma Definition.forall_above_iff (D : Definition name) (hD : D.lines = b.lines) :
    (∀ l ∈ D.above, Signature.defines name l = false) ↔
      D.above.length ∈ lowerBounds (b.linesWhere (Signature.Defines name)) := by
  have hline : ∀ k < D.above.length, b.line? k = D.above[k]? := fun k hk => by
    rw [Buffer.line?, ← hD, Definition.lines, List.getElem?_append_left hk]
  constructor
  · rintro habove k ⟨l, hl, hd⟩
    by_contra hlt
    rw [hline k (by omega)] at hl
    rw [← Signature.defines_iff, habove l (List.mem_of_getElem? hl)] at hd
    exact Bool.false_ne_true hd
  · intro hleast l hl
    obtain ⟨k, hk, rfl⟩ := List.getElem_of_mem hl
    rw [← Bool.not_eq_true, Signature.defines_iff]
    intro hd
    exact absurd (hleast ⟨_, (hline k hk).trans (List.getElem?_eq_getElem hk), hd⟩) (by omega)

lemma existingStub?_eq_some_iff_isLeast {before : Nat} : existingStub? b before name = some r ↔
    r.start < before ∧ IsLeast (b.linesWhere (Signature.Defines name)) r.start ∧
      IsLeast {k ∈ b.linesWhere (Text.trim · = "\x7d".toList) | r.start < k} (r.stop - 1) := by
  rw [existingStub?_eq_some_iff]
  constructor
  · rintro ⟨D, hD, hbefore, habove, rfl⟩
    obtain ⟨hdefines, -, hclose⟩ :=
      definitionAt?_eq_some_iff_isLeast.1 (definitionAt?_eq_some_iff.2 ⟨D, hD, rfl, rfl⟩)
    exact ⟨hbefore, ⟨hdefines, (D.forall_above_iff hD).1 habove⟩, hclose⟩
  · rintro ⟨hbefore, hstart, hclose⟩
    obtain ⟨D, hD, hlength, hr⟩ :=
      definitionAt?_eq_some_iff.1 (definitionAt?_eq_some_iff_isLeast.2 ⟨hstart.1, rfl, hclose⟩)
    rw [← hlength] at hbefore hstart
    exact ⟨D, hD, hbefore, (D.forall_above_iff hD).2 hstart.2, hr⟩

end Definitions

/-- A line starts a definition of at most one name. The definition that is found for a name starts on the first line that
starts one, which has to be above `before`, and ends with the first closing brace below that stands alone. Looking further
down finds no other. -/
theorem existing_stub_found_first :
    (∀ f t, Signature.defines f t = true ↔ Signature.Defines f t) ∧
    (∀ f g t, Text.isWordText f = true → Text.isWordText g = true →
      Signature.Defines f t → Signature.Defines g t → f = g) ∧
    ∀ b before f r,
      (existingStub? b before f = some r ↔
        r.start < before ∧ IsLeast (b.linesWhere (Signature.Defines f)) r.start ∧
          IsLeast {k ∈ b.linesWhere (Text.trim · = "\x7d".toList) | r.start < k} (r.stop - 1)) ∧
      (existingStub? b before f = some r → ∀ before', before ≤ before' → existingStub? b before' f = some r) := by
  refine ⟨fun f t => Signature.defines_iff, fun f g t hf hg hd hd' => hd.unique hf hg hd', fun b before f r => ?_⟩
  refine ⟨existingStub?_eq_some_iff_isLeast, fun h before' hle => ?_⟩
  rw [existingStub?_eq_some_iff_isLeast] at h ⊢
  exact ⟨h.1.trans_le hle, h.2⟩

theorem existing_stub_found_first_behind_longer_name :
    let b : Buffer := ⟨["int addAll(int a) \x7b".toList, "\x7d".toList, "\tint\u00a0add (int a)\x7b return a; \x7d".toList,
      "int add(int b) \x7b".toList, "  \x7d\r".toList, "\x7d".toList], false⟩
    let add := "add".toList
    let head := "int addAll(int a) \x7b".toList
    Text.isWordText add = true ∧ Signature.Defines "addAll".toList head ∧ ¬Signature.Defines add head ∧
      existingStub? b 3 add = some ⟨2, 5⟩ ∧ IsLeast (b.linesWhere (Signature.Defines add)) 2 ∧
      IsLeast {k ∈ b.linesWhere (Text.trim · = "\x7d".toList) | 2 < k} 4 ∧ existingStub? b 9 add = some ⟨2, 5⟩ := by
  intro b add head
  obtain ⟨hpattern, hunique, hfound⟩ := existing_stub_found_first
  have hadd : Text.isWordText add = true := by decide
  have hhead : Signature.Defines "addAll".toList head := (hpattern _ _).1 (by decide)
  have hstub : existingStub? b 3 add = some ⟨2, 5⟩ := by decide +kernel
  obtain ⟨hiff, hfurther⟩ := hfound b 3 add ⟨2, 5⟩
  obtain ⟨-, hstart, hclose⟩ := hiff.1 hstub
  have hother : ¬Signature.Defines add head := fun hd =>
    absurd (hunique _ _ _ hadd (by decide) hd hhead) (by decide)
  exact ⟨hadd, hhead, hother, hstub, hstart, hclose, hfurther hstub 9 (by decide)⟩

end Placement

end CallStubs
