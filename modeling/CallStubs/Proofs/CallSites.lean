import Mathlib.Data.List.DropRight
import CallStubs.Proofs.Recognition

/-! The parentheses of an expression that belong to calls, and what is read off each of them. -/

namespace CallStubs

lemma forall_prefix_cons_iff {c : Char} {a : Text} {P : Text → Prop} :
    (∀ q, q <+: c :: a → P q) ↔ P [] ∧ ∀ q, q <+: a → P (c :: q) := by
  constructor
  · intro h
    exact ⟨h [] List.nil_prefix, fun q hq => h (c :: q) (List.cons_prefix_cons.2 ⟨rfl, hq⟩)⟩
  · rintro ⟨hn, h⟩ q hq
    rcases List.prefix_cons_iff.1 hq with rfl | ⟨r, rfl, hr⟩
    · exact hn
    · exact h r hr

/-- Whether `a` closes what it opens and `d` parentheses more, and no part of it from the left closes further ones. -/
def Closes (d : Nat) (a : Text) : Prop :=
  a.count ')' = a.count '(' + d ∧ ∀ q, q <+: a → q.count ')' ≤ q.count '(' + d

instance (d : Nat) (a : Text) : Decidable (Closes d a) :=
  decidable_of_iff (a.count ')' = a.count '(' + d ∧ ∀ q ∈ a.inits, q.count ')' ≤ q.count '(' + d)
    (by simp only [Closes, List.mem_inits])

namespace Closes

variable {d : Nat} {a : Text}

lemma nil_iff : Closes d [] ↔ d = 0 := by
  simp [Closes, eq_comm]

lemma open_cons_iff : Closes d ('(' :: a) ↔ Closes (d + 1) a := by
  simp [Closes, forall_prefix_cons_iff, add_comm, add_left_comm]

lemma not_close_cons : ¬ Closes 0 (')' :: a) := by
  rintro ⟨-, h⟩
  exact absurd (h [')'] (by simp)) (by decide)

lemma close_cons_iff : Closes (d + 1) (')' :: a) ↔ Closes d a := by
  simp [Closes, forall_prefix_cons_iff, ← add_assoc]

lemma cons_iff {c : Char} (ho : c ≠ '(') (hc : c ≠ ')') : Closes d (c :: a) ↔ Closes d a := by
  simp [Closes, forall_prefix_cons_iff, ho, hc]

lemma cons_cases {c : Char} (h : Closes d (c :: a)) : c = '(' ∧ Closes (d + 1) a ∨
    c = ')' ∧ (∃ n, d = n + 1 ∧ Closes n a) ∨ c ≠ '(' ∧ c ≠ ')' ∧ Closes d a := by
  by_cases ho : c = '('
  · subst ho
    exact Or.inl ⟨rfl, open_cons_iff.1 h⟩
  · by_cases hc : c = ')'
    · subst hc
      cases d with
      | zero => exact absurd h not_close_cons
      | succ d => exact Or.inr (Or.inl ⟨rfl, d, rfl, close_cons_iff.1 h⟩)
    · exact Or.inr (Or.inr ⟨ho, hc, (cons_iff ho hc).1 h⟩)

lemma append {n : Nat} {b : Text} (ha : Closes d a) (hb : Closes n b) : Closes (d + n) (a ++ b) := by
  induction a generalizing d with
  | nil =>
    rw [nil_iff.1 ha, Nat.zero_add]
    exact hb
  | cons c a ih =>
    rw [List.cons_append]
    rcases ha.cons_cases with ⟨rfl, hopen⟩ | ⟨rfl, m, rfl, hclose⟩ | ⟨ho, hc, hrest⟩
    · rw [open_cons_iff, Nat.add_right_comm]
      exact ih hopen
    · rw [Nat.add_right_comm, close_cons_iff]
      exact ih hclose
    · exact (cons_iff ho hc).2 (ih hrest)

end Closes

lemma enclosed?_eq_some_iff {d : Nat} {t a : Text} :
    enclosed? d t = some a ↔ ∃ z, t = a ++ ')' :: z ∧ Closes d a := by
  induction t generalizing d a with
  | nil => simp [enclosed?]
  | cons c t ih => 
    -- a text that goes on behind `c` is enclosed as its part behind `c` is
    have hkeep {n : Nat} (hn : ∀ b, Closes d (c :: b) ↔ Closes n b) (h0 : c = ')' → d ≠ 0) : 
        (enclosed? n t).map (c :: ·) = some a ↔ ∃ z, c :: t = a ++ ')' :: z ∧ Closes d a := by
      simp only [Option.map_eq_some_iff, ih]
      constructor
      · rintro ⟨b, ⟨z, rfl, hb⟩, rfl⟩
        exact ⟨z, rfl, (hn b).2 hb⟩
      · rintro ⟨z, hz, ha⟩
        cases a with
        | nil => exact absurd (Closes.nil_iff.1 ha) (h0 (List.cons.inj hz).1)
        | cons c' b =>
          obtain ⟨rfl, rfl⟩ := List.cons.inj hz
          exact ⟨b, ⟨z, rfl, (hn b).1 ha⟩, rfl⟩
    rw [enclosed?.eq_def]
    simp only
    split_ifs with ho hc
    · subst ho
      exact hkeep (fun b => Closes.open_cons_iff) (by simp)
    · subst hc
      cases d with
      | zero =>
        constructor
        · intro h
          cases h
          exact ⟨t, rfl, Closes.nil_iff.2 rfl⟩
        · rintro ⟨z, hz, ha⟩
          cases a with
          | nil => rfl
          | cons c b =>
            obtain ⟨rfl, -⟩ := List.cons.inj hz
            exact absurd ha Closes.not_close_cons
      | succ d => exact hkeep (fun b => Closes.close_cons_iff) (by simp)
    · exact hkeep (fun b => Closes.cons_iff ho hc) (absurd · hc)

lemma enclosed?_append {d : Nat} {t a : Text} (h : enclosed? d t = some a) (u : Text) :
    enclosed? d (t ++ u) = some a := by
  obtain ⟨z, rfl, ha⟩ := enclosed?_eq_some_iff.1 h
  exact enclosed?_eq_some_iff.2 ⟨z ++ u, by simp, ha⟩

lemma Closes.exists_enclosed? {n d : Nat} {t : Text} (h : Closes (n + d + 1) t) : ∃ a, enclosed? d t = some a := by
  induction t generalizing d with
  | nil => exact absurd (nil_iff.1 h) (Nat.succ_ne_zero _)
  | cons c t ih =>
    rcases h.cons_cases with ⟨rfl, hopen⟩ | ⟨rfl, m, hm, hclose⟩ | ⟨ho, hc, hrest⟩
    · obtain ⟨a, ha⟩ := ih (d := d + 1) hopen
      exact ⟨'(' :: a, by rw [enclosed?.eq_def]; simp [ha]⟩
    · obtain rfl : m = n + d := (Nat.succ.inj hm).symm
      cases d with
      | zero => exact ⟨[], rfl⟩
      | succ d =>
        obtain ⟨a, ha⟩ := ih hclose
        exact ⟨')' :: a, by rw [enclosed?.eq_def]; simp [ha]⟩
    · obtain ⟨a, ha⟩ := ih hrest
      exact ⟨c :: a, by rw [enclosed?.eq_def]; simp [ho, hc, ha]⟩

namespace Text

/-- The word that ends a text, blanks behind it left aside; empty where the last character that is no blank
is in no word. -/
def lastWord (t : Text) : Text :=
  (trimEnd t).rtakeWhile isWord

def endsBlank (t : Text) : Bool :=
  t.getLast?.any isBlank

def endsWord (t : Text) : Bool :=
  t.getLast?.any isWord

variable {c : Char} {f w b : Text}

lemma isWord_of_isBlank (h : isBlank c = true) : isWord c = false := by
  rw [← Bool.not_eq_true]
  intro hw
  simp [isBlank_of_isWord hw] at h

lemma trimEnd_concat (h : isBlank c = false) (t : Text) : trimEnd (t ++ [c]) = t ++ [c] := by
  simp [trimEnd, h]

lemma endsBlank_concat (c : Char) (t : Text) : endsBlank (t ++ [c]) = isBlank c := by
  simp [endsBlank]

lemma lastWord_concat_blank (h : isBlank c = true) (t : Text) : lastWord (t ++ [c]) = lastWord t := by
  rw [lastWord, trimEnd_append_blank (by simp [h])]
  rfl

lemma lastWord_concat_word (h : isWord c = true) (t : Text) :
    lastWord (t ++ [c]) = if endsBlank t then [c] else lastWord t ++ [c] := by
  rw [lastWord, trimEnd_concat (isBlank_of_isWord h), List.rtakeWhile_concat_pos _ _ _ h]
  cases t using List.reverseRecOn with
  | nil => rfl
  | append_singleton t d =>
    rw [endsBlank_concat]
    split_ifs with hd
    · rw [List.rtakeWhile_concat_neg _ _ _ (by simp [isWord_of_isBlank hd])]
      rfl
    · rw [lastWord, trimEnd_concat (by simpa using hd)]

lemma lastWord_concat_other (hw : isWord c = false) (hb : isBlank c = false) (t : Text) : lastWord (t ++ [c]) = [] := by
  rw [lastWord, trimEnd_concat hb, List.rtakeWhile_concat_neg]
  simp [hw]

lemma trimEnd_append_word (hw : isWordText w = true) (hb : isBlankText b = true) (f : Text) :
    trimEnd (f ++ w ++ b) = f ++ w := by
  rw [trimEnd_append_blank hb]
  obtain ⟨hn, hw⟩ := isWordText_iff.1 hw
  cases w using List.reverseRecOn with
  | nil => exact absurd rfl hn
  | append_singleton w c =>
    rw [← List.append_assoc]
    exact trimEnd_concat (isBlank_of_isWord (hw c (by simp))) _

lemma lastWord_append (hf : endsWord f = false) (hw : isWordText w = true) (hb : isBlankText b = true) :
    lastWord (f ++ w ++ b) = w := by
  have hall : ∀ c ∈ w.reverse, isWord c = true := fun c hc => (isWordText_iff.1 hw).2 c (List.mem_reverse.1 hc)
  have hfront : f.reverse.takeWhile isWord = [] := by
    cases f using List.reverseRecOn with
    | nil => rfl
    | append_singleton f c => simpa [endsWord] using hf
  rw [lastWord, trimEnd_append_word hw hb, List.rtakeWhile, List.reverse_append, List.takeWhile_append_of_pos hall,
    hfront, List.append_nil, List.reverse_reverse]

lemma endsWord_rdropWhile (t : Text) : endsWord (t.rdropWhile isWord) = false := by
  by_cases hn : t.rdropWhile isWord = []
  · rw [hn]
    rfl
  · rw [endsWord, List.getLast?_eq_getLast_of_ne_nil hn]
    simpa using List.rdropWhile_last_not isWord t hn

lemma exists_lastWord {t : Text} (h : lastWord t ≠ []) : ∃ f b, t = f ++ lastWord t ++ b ∧
    endsWord f = false ∧ isWordText (lastWord t) = true ∧ isBlankText b = true := by
  refine ⟨(trimEnd t).rdropWhile isWord, t.rtakeWhile isBlank, ?_, ?_, ?_, ?_⟩
  · rw [lastWord, List.rdropWhile_append_rtakeWhile]
    exact List.rdropWhile_append_rtakeWhile.symm
  · exact endsWord_rdropWhile _
  · exact isWordText_iff.2 ⟨h, fun c hc => List.mem_rtakeWhile_imp hc⟩
  · exact isBlankText_iff.2 fun c hc => List.mem_rtakeWhile_imp hc

end Text

lemma openings_cons (p : Text) (c : Char) (t : Text) :
    openings (Text.lastWord p) (Text.endsBlank p) (c :: t) =
      (if c = '(' ∧ Text.lastWord p ≠ [] then [(Text.lastWord p, t)] else []) ++
        openings (Text.lastWord (p ++ [c])) (Text.endsBlank (p ++ [c])) t := by
  rw [openings, Text.endsBlank_concat]
  by_cases hw : Text.isWord c = true
  · have hc : c ≠ '(' := by
      rintro rfl
      exact absurd hw (by decide)
    rw [if_pos hw, Text.lastWord_concat_word hw, Text.isBlank_of_isWord hw]
    simp [hc]
  · by_cases hb : Text.isBlank c = true
    · have hc : c ≠ '(' := by
        rintro rfl
        exact absurd hb (by decide)
      rw [if_neg hw, if_pos hb, Text.lastWord_concat_blank hb, hb]
      simp [hc]
    · rw [Bool.not_eq_true] at hw hb
      rw [Text.lastWord_concat_other hw hb, hw, hb]
      split_ifs <;> simp_all

/-- A call as an expression has it: a word that no other character of a word stands in front of, and a pair
of parentheses behind it, with nothing but blanks between. -/
structure CallSite (e : Text) where
  before : Text
  name : Text
  gap : Text
  inner : Text
  after : Text
  split : before ++ name ++ gap ++ '(' :: inner ++ ')' :: after = e
  endsWord_before : Text.endsWord before = false
  isWordText_name : Text.isWordText name = true
  isBlankText_gap : Text.isBlankText gap = true
  closes_inner : Closes 0 inner

namespace CallSite

variable {e : Text}

def front (s : CallSite e) : Text :=
  s.before ++ s.name ++ s.gap

def position (s : CallSite e) : Nat :=
  s.front.length

lemma lastWord_front (s : CallSite e) : Text.lastWord s.front = s.name :=
  Text.lastWord_append s.endsWord_before s.isWordText_name s.isBlankText_gap

lemma enclosed?_inner (s : CallSite e) : enclosed? 0 (s.inner ++ ')' :: s.after) = some s.inner :=
  enclosed?_eq_some_iff.2 ⟨s.after, rfl, s.closes_inner⟩

lemma front_append (s : CallSite e) : s.front ++ '(' :: (s.inner ++ ')' :: s.after) = e := by
  have hs := s.split
  simp only [List.append_assoc, List.cons_append] at hs
  simpa only [front, List.append_assoc] using hs

lemma inner_subset (s : CallSite e) : s.inner ⊆ e := by
  intro c hc
  rw [← s.split]
  simp [hc]

lemma position_lt (s : CallSite e) : s.position < e.length := by
  have hs := congrArg List.length s.front_append
  simp only [List.length_append, List.length_cons] at hs
  unfold position
  omega

lemma of_position {p t : Text} (s : CallSite e) (he : p ++ t = e) (hp : s.position = p.length) :
    s.front = p ∧ '(' :: (s.inner ++ ')' :: s.after) = t :=
  List.append_inj (s.front_append.trans he.symm) hp

lemma eq_of_position {s s' : CallSite e} (h : s.position = s'.position) : s = s' := by
  -- the word and the blanks are read off the text in front, the closing parenthesis off the text behind
  obtain ⟨hf, ht⟩ := s.of_position s'.front_append h
  have hname : s.name = s'.name := by
    rw [← s.lastWord_front, hf, s'.lastWord_front]
  have hinner : s.inner = s'.inner := by
    have hs := s.enclosed?_inner
    rw [(List.cons.inj ht).2, s'.enclosed?_inner] at hs
    exact (Option.some.inj hs).symm
  have hafter : s.after = s'.after := by
    rw [hinner] at ht
    exact (List.cons.inj (List.append_cancel_left (List.cons.inj ht).2)).2
  have htrim : s.before ++ s.name = s'.before ++ s'.name := by
    rw [← Text.trimEnd_append_word s.isWordText_name s.isBlankText_gap s.before,
      ← Text.trimEnd_append_word s'.isWordText_name s'.isBlankText_gap s'.before]
    exact congrArg Text.trimEnd hf
  have hbefore : s.before = s'.before := by
    rw [hname] at htrim
    exact List.append_cancel_right htrim
  have hgap : s.gap = s'.gap := by
    rw [front, front, htrim] at hf
    exact List.append_cancel_left hf
  cases s
  cases s'
  simp_all

lemma exists_of_enclosed? {p t a : Text} (he : p ++ '(' :: t = e) (hw : Text.lastWord p ≠ [])
    (h : enclosed? 0 t = some a) : ∃ s : CallSite e, s.position = p.length := by
  obtain ⟨z, rfl, ha⟩ := enclosed?_eq_some_iff.1 h
  obtain ⟨f, b, hp, hf, hn, hb⟩ := Text.exists_lastWord hw
  exact ⟨⟨f, Text.lastWord p, b, a, z, by rw [← hp, ← he]; simp, hf, hn, hb, ha⟩, congrArg List.length hp.symm⟩

def read (s : CallSite e) : Text × List Text :=
  (s.name, Arguments.split s.inner)

def ListsFrom (n : Nat) (sites : List (CallSite e)) : Prop :=
  (sites.map position).Pairwise (· < ·) ∧ ∀ s, s ∈ sites ↔ n ≤ s.position

namespace ListsFrom

variable {n : Nat} {sites : List (CallSite e)}

lemma nil (h : e.length ≤ n) : ListsFrom (e := e) n [] := by
  refine ⟨List.Pairwise.nil, fun s => ?_⟩
  have hs := s.position_lt
  simp only [List.not_mem_nil, false_iff]
  omega

lemma cons {s : CallSite e} (h : ListsFrom (s.position + 1) sites) : ListsFrom s.position (s :: sites) := by
  obtain ⟨hsorted, hmem⟩ := h
  refine ⟨?_, fun s' => ?_⟩
  · rw [List.map_cons, List.pairwise_cons]
    refine ⟨?_, hsorted⟩
    simp only [List.mem_map]
    rintro _ ⟨s', hs', rfl⟩
    exact (hmem s').1 hs'
  · rw [List.mem_cons, hmem]
    constructor
    · rintro (rfl | h)
      exacts [le_rfl, Nat.le_of_succ_le h]
    · intro h
      exact (Nat.eq_or_lt_of_le h).imp (fun h => eq_of_position h.symm) id

lemma skip (h : ListsFrom (n + 1) sites) (hn : ∀ s : CallSite e, s.position ≠ n) : ListsFrom n sites := by
  refine ⟨h.1, fun s => ?_⟩
  have hs := hn s
  rw [h.2]
  omega

end ListsFrom

end CallSite

def readOpening? (o : Text × Text) : Option (Text × List Text) :=
  (enclosed? 0 o.2).map fun a => (o.1, Arguments.split a)

lemma exists_sites {e p t : Text} (he : p ++ t = e) : ∃ sites : List (CallSite e), CallSite.ListsFrom p.length sites ∧
    (openings (Text.lastWord p) (Text.endsBlank p) t).filterMap readOpening? = sites.map CallSite.read := by
  -- along the scan: `p` is read, and the state of the scan is what `p` ends with
  induction t generalizing p with
  | nil => exact ⟨[], CallSite.ListsFrom.nil (by simp [← he]), rfl⟩
  | cons c t ih =>
    obtain ⟨sites, hsites, hread⟩ := ih (p := p ++ [c]) (by simpa using he)
    rw [List.length_append, List.length_singleton] at hsites
    rw [openings_cons, List.filterMap_append, hread]
    by_cases hs : ∃ s : CallSite e, s.position = p.length
    · obtain ⟨s, hs⟩ := hs
      obtain ⟨rfl, ht⟩ := s.of_position he hs
      obtain ⟨rfl, rfl⟩ := List.cons.inj ht
      have hname : s.name ≠ [] := (Text.isWordText_iff.1 s.isWordText_name).1
      refine ⟨s :: sites, hsites.cons, ?_⟩
      simp [readOpening?, s.lastWord_front, s.enclosed?_inner, hname, CallSite.read]
    · have hnone : (if c = '(' ∧ Text.lastWord p ≠ [] then [(Text.lastWord p, t)] else []).filterMap readOpening? = [] := by
        split_ifs with hc
        · cases ha : enclosed? 0 t with
          | none => simp [readOpening?, ha]
          | some a =>
            obtain ⟨rfl, hw⟩ := hc
            exact absurd (CallSite.exists_of_enclosed? he hw ha) hs
        · rfl
      refine ⟨sites, hsites.skip (not_exists.1 hs), ?_⟩
      rw [hnone, List.nil_append]

lemma callsIn_eq_sites (e : Text) : ∃ sites : List (CallSite e), CallSite.ListsFrom 0 sites ∧
    callsIn e = sites.map CallSite.read :=
  exists_sites (List.nil_append e)

end CallStubs
