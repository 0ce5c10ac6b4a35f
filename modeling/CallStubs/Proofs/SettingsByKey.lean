import CallStubs.Proofs.FewestEdits
import CallStubs.Settings

/-! A table of settings is read key by key: no key counts for the value of another one, and what is wrong with each
of them is said in order. -/

namespace CallStubs

namespace Toml.Table

def keys (t : Table) : List Text :=
  t.map Prod.fst

lemma lookup_filter (p : Text → Bool) (t : Table) {k : Text} (hk : p k = true) :
    (t.filter fun e => p e.1).lookup k = t.lookup k := by
  induction t with
  | nil => rfl
  | cons e t ih =>
    obtain ⟨k', v⟩ := e
    by_cases hkk : k = k'
    · subst hkk
      simp [hk]
    · have hne : (k == k') = false := beq_eq_false_iff_ne.2 hkk
      rw [List.filter_cons]
      split_ifs
      · simp only [List.lookup_cons, hne, ih]
      · simp only [List.lookup_cons, hne, ih]

lemma mem_keys_iff {t : Table} {k : Text} : k ∈ t.keys ↔ ∃ v, t.lookup k = some v := by
  rw [← Option.isSome_iff_exists, List.lookup_isSome_iff, keys, List.mem_map]
  constructor
  · rintro ⟨e, he, rfl⟩
    exact ⟨e, he, beq_self_eq_true _⟩
  · rintro ⟨e, he, hk⟩
    exact ⟨e, he, (beq_iff_eq.1 hk).symm⟩

end Toml.Table

namespace Settings

def slips (key k : Text) : Nat :=
  EditDistance.levenshtein (Utf8.encode key) (Utf8.encode k)

def IsNearest (key : Text) (ks : List Text) (k : Text) : Prop :=
  ∃ A B, ks = A ++ k :: B ∧ (∀ j ∈ A, slips key k < slips key j) ∧ ∀ j ∈ B, slips key k ≤ slips key j

lemma keyDistance_eq (key k : Text) : keyDistance key k = slips key k :=
  EditDistance.distance_eq_levenshtein _ _

lemma nearestKey_eq_none {key : Text} {ks : List Text} : nearestKey key ks = none ↔ ks = [] := by
  cases ks with
  | nil => simp [nearestKey]
  | cons k ks =>
    rw [nearestKey]
    cases nearestKey key ks with
    | none => simp
    | some best =>
      simp only
      split_ifs <;> simp

lemma nearest_of_nearestKey {key k : Text} {ks : List Text} (h : nearestKey key ks = some k) : IsNearest key ks k := by
  induction ks generalizing k with
  | nil => simp [nearestKey] at h
  | cons j ks ih =>
    rw [nearestKey] at h
    cases hbest : nearestKey key ks with
    | none =>
      obtain rfl := nearestKey_eq_none.1 hbest
      simp only [hbest, Option.some.injEq] at h
      subst h
      exact ⟨[], [], by simp⟩
    | some best =>
      obtain ⟨A, B, rfl, hA, hB⟩ := ih hbest
      simp only [hbest, keyDistance_eq] at h
      split_ifs at h with hle
      · cases h
        refine ⟨[], A ++ best :: B, rfl, by simp, fun l hl => ?_⟩
        rcases List.mem_append.1 hl with hl | hl
        · exact hle.trans (hA l hl).le
        · rcases List.mem_cons.1 hl with rfl | hl
          · exact hle
          · exact hle.trans (hB l hl)
      · cases h
        refine ⟨j :: A, B, rfl, ?_, hB⟩
        rw [List.forall_mem_cons]
        exact ⟨Nat.lt_of_not_le hle, hA⟩

lemma suggestion?_cases (key : Text) : ∃ k, IsNearest key knownKeys k ∧
    (slips key k ≤ 3 ∧ suggestion? key = some k ∨ 3 < slips key k ∧ suggestion? key = none) := by
  cases h : nearestKey key knownKeys with
  | none => simp [nearestKey_eq_none, knownKeys] at h
  | some k =>
    refine ⟨k, nearest_of_nearestKey h, ?_⟩
    simp only [suggestion?, h, keyDistance_eq]
    by_cases hk : slips key k ≤ 3
    · exact Or.inl ⟨hk, by simp [Option.filter, hk]⟩
    · exact Or.inr ⟨Nat.lt_of_not_le hk, by simp [Option.filter, hk]⟩

def unknownKeys (t : Toml.Table) : List Text :=
  t.keys.filter fun k => !knownKeys.contains k

lemma mem_unknownKeys_iff {t : Toml.Table} {k : Text} :
    k ∈ unknownKeys t ↔ k ∉ knownKeys ∧ ∃ v, t.lookup k = some v := by
  rw [unknownKeys, List.mem_filter, Toml.Table.mem_keys_iff, and_comm]
  simp

def Ascending (ks : List Text) : Prop :=
  ks.Pairwise fun a b => Utf8.encode a < Utf8.encode b

instance (ks : List Text) : Decidable (Ascending ks) :=
  inferInstanceAs (Decidable (ks.Pairwise _))

inductive Questions (key : Text) : Log.Entry → Prop
  | suggesting {k : Text} : IsNearest key knownKeys k → slips key k ≤ 3 →
      Questions key ⟨.warn, "Unknown key in .stubsmith.toml, did you mean '".toList ++ k ++ "'?".toList,
        [Log.quotedField "key" key, Log.quotedField "suggestion" k]⟩
  | listing {k : Text} : IsNearest key knownKeys k → 3 < slips key k →
      Questions key ⟨.warn,
        "Unknown key in .stubsmith.toml (known keys: indent_width, debounce_ms, extensions)".toList,
        [Log.quotedField "key" key]⟩

lemma message_suggesting (key k : Text) : (Remark.unknownKey key (some k)).message =
    "Unknown key in .stubsmith.toml, did you mean '".toList ++ k ++ "'?".toList := by
  have hstart : "Unknown key in ".toList ++ fileName ++ ", did you mean '".toList =
    "Unknown key in .stubsmith.toml, did you mean '".toList := by decide +kernel
  exact congrArg (· ++ k ++ "'?".toList) hstart

lemma message_listing (key : Text) : (Remark.unknownKey key none).message =
    "Unknown key in .stubsmith.toml (known keys: indent_width, debounce_ms, extensions)".toList := by
  change "Unknown key in ".toList ++ fileName ++ " (known keys: ".toList ++ Text.concatSep ", ".toList knownKeys ++
    ")".toList = _
  decide +kernel

lemma questions_unknownKey (key : Text) : Questions key (Remark.unknownKey key (suggestion? key)).entry := by
  obtain ⟨k, hk, ⟨hle, hs⟩ | ⟨hlt, hs⟩⟩ := suggestion?_cases key
  · rw [hs, Remark.entry, message_suggesting]
    exact .suggesting hk hle
  · rw [hs, Remark.entry, message_listing]
    exact .listing hk hlt

lemma questions_unknownRemarks (t : Toml.Table) :
    List.Forall₂ Questions (unknownKeys t) ((unknownRemarks t).map Remark.entry) := by
  have hkeys : unknownKeys t = (t.filter fun e => !knownKeys.contains e.1).map Prod.fst := List.filter_map
  rw [hkeys, unknownRemarks, List.map_map, List.forall₂_map_left_iff, List.forall₂_map_right_iff, List.forall₂_same]
  exact fun e _ => questions_unknownKey e.1

/-- The count that comes of the value under a key, at most `limit`, and the warnings about that value. How a value that
is turned down is printed rests on what `Toml.Value.display` assumes. -/
inductive Counts (key : Text) (limit : Option Nat) (usual : Nat) : Option Toml.Value → Nat → List Log.Entry → Prop
  | absent : Counts key limit usual none usual []
  | kept {n : Nat} : (∀ m ∈ limit, n ≤ m) → Counts key limit usual (some (.integer n)) n []
  | clamped {n m : Nat} : m ∈ limit → m < n → Counts key limit usual (some (.integer n)) m
      [⟨.warn, key ++ " too large, clamping".toList, [Log.numberField "value" n, Log.numberField "max" m]⟩]
  | rejected {v : Toml.Value} : (∀ n : Nat, v ≠ .integer n) → Counts key limit usual (some v) usual
      [⟨.warn, key ++ " must be a non-negative integer".toList, [Log.plainField "value" v.display]⟩]

lemma count?_cases (v : Toml.Value) :
    (∃ n : Nat, v = .integer n ∧ count? v = some n) ∨ (∀ n : Nat, v ≠ .integer n) ∧ count? v = none := by
  cases v with
  | integer n =>
    by_cases hn : 0 ≤ n
    · exact Or.inl ⟨n.toNat, by simp [hn], by simp [count?, hn]⟩
    · refine Or.inr ⟨fun m hm => hn ?_, by simp [count?, hn]⟩
      cases hm
      exact Int.natCast_nonneg m
  | _ => exact Or.inr ⟨nofun, rfl⟩

lemma counts_indentOf (t : Toml.Table) : Counts indentKey (some Stub.maxWidth) standard.indentWidth
    (t.lookup indentKey) (indentOf t).1 ((indentOf t).2.map Remark.entry) := by
  rw [indentOf]
  cases t.lookup indentKey with
  | none => exact .absent
  | some v =>
    rcases count?_cases v with ⟨n, rfl, hn⟩ | ⟨hv, hn⟩
    · simp only [hn]
      split_ifs with hw
      · exact .clamped rfl hw
      · exact .kept (by simpa using hw)
    · simp only [hn]
      exact .rejected hv

lemma counts_debounceOf (t : Toml.Table) : Counts debounceKey none standard.debounceMs
    (t.lookup debounceKey) (debounceOf t).1 ((debounceOf t).2.map Remark.entry) := by
  rw [debounceOf]
  cases t.lookup debounceKey with
  | none => exact .absent
  | some v =>
    rcases count?_cases v with ⟨n, rfl, hn⟩ | ⟨hv, hn⟩
    · simp only [hn]
      exact .kept (by simp)
    · simp only [hn]
      exact .rejected hv

inductive Lists : Option Toml.Value → List Text → Prop
  | strings {growing : Bool} {vs : List Toml.Value} {es : List Text} :
      (∀ e, e ∈ es ↔ ∃ s, .string s ∈ vs ∧ e = s.dropWhile (· == '.')) → Lists (some (.array growing vs)) es
  | usual {v : Option Toml.Value} : (∀ growing vs, v ≠ some (.array growing vs)) → Lists v standard.extensions

lemma extension?_eq_some_iff {v : Toml.Value} {e : Text} :
    extension? v = some e ↔ ∃ s, v = .string s ∧ e = s.dropWhile (· == '.') := by
  cases v with
  | string s => simp [extension?, eq_comm]
  | _ => simp [extension?]

lemma lists_extensionsOf (t : Toml.Table) : Lists (t.lookup extensionsKey) (extensionsOf t) := by
  rw [extensionsOf]
  split
  · rename_i growing vs h
    rw [h]
    refine .strings fun e => ?_
    simp only [List.mem_eraseDups, List.mem_filterMap, extension?_eq_some_iff]
    constructor
    · rintro ⟨v, hv, s, rfl, he⟩
      exact ⟨s, hv, he⟩
    · rintro ⟨s, hs, he⟩
      exact ⟨_, hs, s, rfl, he⟩
  · rename_i h
    exact .usual h

lemma ofTable_known (t : Toml.Table) :
    (ofTable (t.filter fun e => knownKeys.contains e.1)).1 = (ofTable t).1 := by
  have hlookup := fun k (hk : k ∈ knownKeys) =>
    Toml.Table.lookup_filter (fun k => knownKeys.contains k) t (List.contains_iff_mem.2 hk)
  simp only [ofTable, indentOf, debounceOf, extensionsOf, hlookup indentKey (by decide),
    hlookup debounceKey (by decide), hlookup extensionsKey (by decide)]

/-- Each setting comes of the value under its own key, so the value under another key makes no difference to it, and
unknown keys make none at all. The warnings are one for each unknown key, in the order of the table, and then what is
to be said of the indentation and of the quiet period. -/
theorem table_read_key_by_key (t : Toml.Table) :
    let s := (ofTable t).1
    (∃ unknown indent debounce, (ofTable t).2.map Remark.entry = unknown ++ indent ++ debounce ∧
      List.Forall₂ Questions (unknownKeys t) unknown ∧
      Counts indentKey (some Stub.maxWidth) standard.indentWidth (t.lookup indentKey) s.indentWidth indent ∧
      Counts debounceKey none standard.debounceMs (t.lookup debounceKey) s.debounceMs debounce ∧
      Lists (t.lookup extensionsKey) s.extensions) ∧
    (∀ t' : Toml.Table,
      (t'.lookup indentKey = t.lookup indentKey → (ofTable t').1.indentWidth = s.indentWidth) ∧
      (t'.lookup debounceKey = t.lookup debounceKey → (ofTable t').1.debounceMs = s.debounceMs) ∧
      (t'.lookup extensionsKey = t.lookup extensionsKey → (ofTable t').1.extensions = s.extensions)) ∧
    (ofTable (t.filter fun e => knownKeys.contains e.1)).1 = s ∧
    (∀ k, k ∈ unknownKeys t ↔ k ∉ knownKeys ∧ ∃ v, t.lookup k = some v) ∧
    (Ascending t.keys → Ascending (unknownKeys t)) ∧
    ∀ path text, Toml.parse? text = some t → load path (.text text) = ofTable t := by
  intro s
  refine ⟨⟨_, _, _, ?_, questions_unknownRemarks t, counts_indentOf t, counts_debounceOf t, lists_extensionsOf t⟩,
    fun t' => ⟨?_, ?_, ?_⟩, ofTable_known t, fun k => mem_unknownKeys_iff, fun h => h.filter _, fun path text h => ?_⟩
  · rw [ofTable, List.map_append, List.map_append]
  · intro h
    simp only [s, ofTable, indentOf, h]
  · intro h
    simp only [s, ofTable, debounceOf, h]
  · intro h
    simp only [s, ofTable, extensionsOf, h]
  · simp only [load, File.exists?, File.read, h, if_true]

theorem table_read_key_by_key_of_slips :
    let text : Text := "tabs = 1\ndebounce_ms = -1\nindent_width = 17\nIndent_width = 2".toList
    let t : Toml.Table := [("Indent_width".toList, .integer 2), ("debounce_ms".toList, .integer (-1)),
      ("indent_width".toList, .integer 17), ("tabs".toList, .integer 1)]
    let t' : Toml.Table := [("debounce_ms".toList, .boolean true), ("indent_width".toList, .integer 17)]
    let t'' : Toml.Table := [("debounce_ms".toList, .integer (-1)), ("indent_width".toList, .boolean true)]
    Toml.parse? text = some t ∧ Ascending t.keys ∧ Ascending (unknownKeys t) ∧
      unknownKeys t = ["Indent_width".toList, "tabs".toList] ∧
      t'.lookup indentKey = t.lookup indentKey ∧ (ofTable t').1.indentWidth = (ofTable t).1.indentWidth ∧
      t''.lookup debounceKey = t.lookup debounceKey ∧ (ofTable t'').1.debounceMs = (ofTable t).1.debounceMs ∧
      t''.lookup extensionsKey = t.lookup extensionsKey ∧ (ofTable t'').1.extensions = (ofTable t).1.extensions ∧
      load fileName (.text text) = ofTable t ∧ (ofTable t).1 = ⟨16, 300, standard.extensions⟩ ∧
      (ofTable t).2.map Remark.message =
        ["Unknown key in .stubsmith.toml, did you mean 'indent_width'?".toList,
          "Unknown key in .stubsmith.toml (known keys: indent_width, debounce_ms, extensions)".toList,
          "indent_width too large, clamping".toList, "debounce_ms must be a non-negative integer".toList] := by
  intro text t t' t''
  have hread : Toml.parse? text = some (Toml.Table.sortByKey [("tabs".toList, .integer 1),
      ("debounce_ms".toList, .integer (-1)), ("indent_width".toList, .integer 17),
      ("Indent_width".toList, .integer 2)]) := rfl
  have hparse : Toml.parse? text = some t := by
    rw [hread]
    simp only [t]
    cbv
  have hkeys : Ascending t.keys := by decide +kernel
  have hindent : t'.lookup indentKey = t.lookup indentKey := rfl
  have hdebounce : t''.lookup debounceKey = t.lookup debounceKey := rfl
  have hextensions : t''.lookup extensionsKey = t.lookup extensionsKey := rfl
  obtain ⟨-, hfields, -, -, hascending, hload⟩ := table_read_key_by_key t
  exact ⟨hparse, hkeys, hascending hkeys, by decide +kernel, hindent, (hfields t').1 hindent,
    hdebounce, (hfields t'').2.1 hdebounce, hextensions, (hfields t'').2.2 hextensions,
    hload fileName text hparse, by decide +kernel, by decide +kernel⟩

end Settings

end CallStubs
