import Sieve.Value.Basic
import Mathlib.Data.List.Nodup

/-!
Entries of mappings, seen from their text keys.

To put an entry, to lay entries over others and to lay mappings into each other are all changes of
one entry after another. So each is known by what it does to the value under a text key. A mapping
has each text key once, and stays so.
-/

namespace Sieve.Value

variable {es top : List (Value × Value)} {key v : Value} {k : String}

/-- The keys that are texts. -/
def textKeys (es : List (Value × Value)) : List String := es.filterMap fun e => e.1.string?

/-- No text key stands twice. -/
def HasDistinctKeys (es : List (Value × Value)) : Prop := (textKeys es).Nodup

/-- All keys are texts. -/
def HasTextKeys (es : List (Value × Value)) : Prop := ∀ e ∈ es, ∃ s, e.1 = .str s

/-- The entries of a mapping from texts. -/
structure IsTextMapping (es : List (Value × Value)) : Prop where
  text : HasTextKeys es
  distinct : HasDistinctKeys es

/-- What stands under a key of which one mapping has the value `top`, laid over another that has
`old`. -/
def over? (top old : Option Value) : Option Value :=
  match top with
  | some v => some (deepOver v old)
  | none => old

lemma string?_eq_some_iff {s : String} : v.string? = some s ↔ v = .str s := by
  cases v <;> simp [string?]

/-! ### Single entries -/

lemma same_str_iff : key.same (.str k) = true ↔ key.string? = some k := by
  cases key <;> simp [same, number?, string?]

/-- Keys that are the same are the same text, or none of them is a text. -/
lemma string?_eq_of_same {w : Value} (h : w.same key = true) : w.string? = key.string? := by
  cases key with
  | str s => exact same_str_iff.mp h
  | _ => cases w <;> simp_all [same, number?, string?]

lemma lookup_cons {e : Value × Value} :
    lookup (e :: es) k = if e.1.string? = some k then some e.2 else lookup es k := by
  obtain ⟨key, w⟩ := e
  cases key <;> simp [lookup, string?]

lemma put_eq_update : put es k v = update es (.str k) fun _ => v := by
  induction es with
  | nil => rfl
  | cons e es ih =>
    obtain ⟨key, w⟩ := e
    rw [update, if_congr same_str_iff rfl rfl, ← ih]
    cases key <;> simp [put, string?]

lemma putKey_eq_update : putKey es key v = update es key fun _ => v := by
  induction es with
  | nil => rfl
  | cons e es ih => rw [putKey, update, ih]

/-- A change of one entry, seen from a text key. -/
theorem lookup_update {f : Option Value → Value} :
    lookup (update es key f) k =
      if key.string? = some k then some (f (lookup es k)) else lookup es k := by
  induction es with
  | nil => rw [update, lookup_cons]; rfl
  | cons e es ih =>
    obtain ⟨key', w⟩ := e
    rw [update]
    by_cases hsame : key'.same key = true
    · rw [if_pos hsame, lookup_cons, lookup_cons, string?_eq_of_same hsame]
      split_ifs <;> rfl
    · rw [if_neg hsame, lookup_cons, lookup_cons, ih]
      -- Of different keys at most one is that text.
      by_cases hkey : key'.string? = some k
      · have hne : key.string? ≠ some k := by
          intro h
          rw [string?_eq_some_iff.mp h, same_str_iff] at hsame
          exact hsame hkey
        rw [if_pos hkey, if_neg hne, if_pos hkey]
      · rw [if_neg hkey, if_neg hkey]

lemma lookup_put {k' : String} :
    lookup (put es k v) k' = if k = k' then some v else lookup es k' := by
  rw [put_eq_update, lookup_update]
  simp [string?]

lemma lookup_putKey :
    lookup (putKey es key v) k = if key.string? = some k then some v else lookup es k := by
  rw [putKey_eq_update, lookup_update]

/-! ### Keys -/

lemma textKeys_cons {e : Value × Value} :
    textKeys (e :: es) = e.1.string?.toList ++ textKeys es := by
  rcases h : e.1.string? with _ | s <;> simp [textKeys, h]

lemma textKeys_update {f : Option Value → Value} :
    textKeys (update es key f) = textKeys es ∨
      ∃ s, key.string? = some s ∧ s ∉ textKeys es ∧ textKeys (update es key f) = textKeys es ++ [s] := by
  induction es with
  | nil =>
    rcases hkey : key.string? with _ | s
    · exact Or.inl (by simp [update, textKeys, hkey])
    · exact Or.inr ⟨s, rfl, by simp [textKeys], by simp [update, textKeys, hkey]⟩
  | cons e es ih =>
    obtain ⟨key', w⟩ := e
    rw [update]
    by_cases hsame : key'.same key = true
    · rw [if_pos hsame, textKeys_cons, textKeys_cons]
      exact Or.inl rfl
    · rw [if_neg hsame, textKeys_cons, textKeys_cons]
      rcases ih with ih | ⟨s, hs, hnew, ih⟩
      · exact Or.inl (by rw [ih])
      · refine Or.inr ⟨s, hs, ?_, by rw [ih, List.append_assoc]⟩
        rw [List.mem_append, not_or]
        refine ⟨fun hmem => hsame ?_, hnew⟩
        rw [string?_eq_some_iff.mp hs, same_str_iff]
        simpa using hmem

lemma HasDistinctKeys.update {f : Option Value → Value} (h : HasDistinctKeys es) :
    HasDistinctKeys (update es key f) := by
  unfold HasDistinctKeys
  rcases @textKeys_update es key f with hkeys | ⟨s, -, hnew, hkeys⟩
  · rw [hkeys]
    exact h
  · rw [hkeys, ← List.concat_eq_append]
    exact List.Nodup.concat hnew h

lemma HasDistinctKeys.put (h : HasDistinctKeys es) : HasDistinctKeys (put es k v) := by
  rw [put_eq_update]
  exact h.update

lemma HasDistinctKeys.putKey (h : HasDistinctKeys es) : HasDistinctKeys (putKey es key v) := by
  rw [putKey_eq_update]
  exact h.update

lemma hasDistinctKeys_nil : HasDistinctKeys [] := List.nodup_nil

lemma mem_textKeys_of_lookup (h : (lookup es k).isSome) : k ∈ textKeys es := by
  induction es with
  | nil => cases h
  | cons e es ih =>
    rw [lookup_cons] at h
    rw [textKeys_cons, List.mem_append]
    split_ifs at h with hkey
    · exact Or.inl (by simp [hkey])
    · exact Or.inr (ih h)

lemma lookup_ne_none_of_mem (h : k ∈ textKeys es) : lookup es k ≠ none := by
  obtain ⟨e, he, hkey⟩ := List.mem_filterMap.mp h
  induction es with
  | nil => cases he
  | cons e' es ih =>
    rw [lookup_cons]
    split_ifs with hkey'
    · simp
    · rcases List.mem_cons.mp he with rfl | he
      · exact absurd hkey hkey'
      · exact ih (List.mem_filterMap.mpr ⟨e, he, hkey⟩) he

lemma mem_textKeys_iff : k ∈ textKeys es ↔ lookup es k ≠ none :=
  ⟨lookup_ne_none_of_mem, fun h => mem_textKeys_of_lookup (Option.isSome_iff_ne_none.mpr h)⟩

lemma lookup_eq_none_of_not_mem (h : k ∉ textKeys es) : lookup es k = none := by
  rw [← Option.not_isSome_iff_eq_none]
  exact fun hsome => h (mem_textKeys_of_lookup hsome)

lemma mem_of_lookup (h : lookup es k = some v) : (.str k, v) ∈ es := by
  induction es with
  | nil => cases h
  | cons e es ih =>
    obtain ⟨key, w⟩ := e
    rw [lookup_cons] at h
    split_ifs at h with hkey
    · obtain rfl : key = .str k := string?_eq_some_iff.mp hkey
      cases h
      exact List.mem_cons_self
    · exact List.mem_cons_of_mem _ (ih h)

lemma lookup_append {more : List (Value × Value)} :
    lookup (es ++ more) k = (lookup es k).or (lookup more k) := by
  induction es with
  | nil => rfl
  | cons e es ih =>
    rw [List.cons_append, lookup_cons, lookup_cons, ih]
    split_ifs <;> rfl

/-- The first entry has its key alone. -/
lemma lookup_tail_of_distinct {e : Value × Value} (h : HasDistinctKeys (e :: es))
    (hkey : e.1.string? = some k) : lookup es k = none := by
  rw [HasDistinctKeys, textKeys_cons, hkey] at h
  exact lookup_eq_none_of_not_mem (List.nodup_cons.mp h).1

lemma HasDistinctKeys.tail {e : Value × Value} (h : HasDistinctKeys (e :: es)) :
    HasDistinctKeys es := by
  rw [HasDistinctKeys, textKeys_cons] at h
  exact (List.nodup_append.mp h).2.1

/-- What holds of all keys and of all values stays so. -/
lemma forall_update {P Q : Value → Prop} {f : Option Value → Value}
    (h : ∀ e ∈ es, P e.1 ∧ Q e.2) (hkey : P key) (hf : ∀ old, Q (f old)) :
    ∀ e ∈ update es key f, P e.1 ∧ Q e.2 := by
  induction es with
  | nil => exact List.forall_mem_singleton.mpr ⟨hkey, hf none⟩
  | cons e es ih =>
    obtain ⟨he, hes⟩ := List.forall_mem_cons.mp h
    rw [update]
    split_ifs
    · exact List.forall_mem_cons.mpr ⟨⟨he.1, hf _⟩, hes⟩
    · exact List.forall_mem_cons.mpr ⟨he, ih hes⟩

lemma HasTextKeys.update {f : Option Value → Value} (h : HasTextKeys es) :
    HasTextKeys (update es (.str k) f) := by
  intro e he
  exact (forall_update (P := fun key => ∃ s, key = .str s) (Q := fun _ => True)
    (fun e he => ⟨h e he, trivial⟩) ⟨k, rfl⟩ (fun _ => trivial) e he).1

lemma exists_str_iff : (∃ s, v = .str s) ↔ v.string?.isSome := by
  cases v <;> simp [string?]

/-- A key that is no text stays, and one that is added is none. -/
lemma hasTextKeys_update_iff {f : Option Value → Value} :
    HasTextKeys (update es key f) ↔ HasTextKeys es ∧ ∃ s, key = .str s := by
  unfold HasTextKeys
  induction es with
  | nil => simp [update]
  | cons e es ih =>
    obtain ⟨key', w⟩ := e
    rw [update]
    by_cases hsame : key'.same key = true
    · -- The entry that is changed keeps its key, which is a text if the other one is.
      have hkey : (∃ s, key' = .str s) ↔ ∃ s, key = .str s := by
        rw [exists_str_iff, exists_str_iff, string?_eq_of_same hsame]
      rw [if_pos hsame, List.forall_mem_cons, List.forall_mem_cons]
      exact ⟨fun h => ⟨h, hkey.mp h.1⟩, fun h => h.1⟩
    · rw [if_neg hsame, List.forall_mem_cons, List.forall_mem_cons, ih, and_assoc]

lemma hasTextKeys_put_iff : HasTextKeys (put es k v) ↔ HasTextKeys es := by
  rw [put_eq_update, hasTextKeys_update_iff]
  exact and_iff_left ⟨k, rfl⟩

/-! ### Entries over others -/

/-- A fold that sets what stands under a text key from one entry after another. -/
lemma lookup_foldl {step : List (Value × Value) → Value × Value → List (Value × Value)}
    (hstep : ∀ e ∈ top, ∀ acc, lookup (step acc e) k =
      if e.1.string? = some k then some e.2 else lookup acc k)
    (htop : HasDistinctKeys top) :
    lookup (top.foldl step es) k = (lookup top k).or (lookup es k) := by
  induction top generalizing es with
  | nil => rfl
  | cons e top ih =>
    obtain ⟨he, hrest⟩ := List.forall_mem_cons.mp hstep
    rw [List.foldl_cons, ih hrest htop.tail, he, lookup_cons]
    split_ifs with hkey
    · rw [lookup_tail_of_distinct htop hkey]
      rfl
    · rfl

/-- Entries laid over others come first. -/
theorem lookup_overlay (htop : HasDistinctKeys top) :
    lookup (overlay es top) k = (lookup top k).or (lookup es k) :=
  lookup_foldl (fun _ _ _ => lookup_putKey) htop

/-- Of entries laid into others, mappings under one key are laid into each other. -/
theorem lookup_deepEntries (htop : HasDistinctKeys top) :
    lookup (deepEntries top es) k = over? (lookup top k) (lookup es k) := by
  induction top generalizing es with
  | nil => rw [deepEntries]; rfl
  | cons e top ih =>
    obtain ⟨key, v⟩ := e
    rw [deepEntries, ih htop.tail, lookup_update, lookup_cons]
    split_ifs with hkey
    · rw [lookup_tail_of_distinct htop hkey]
      rfl
    · rfl

lemma HasDistinctKeys.foldl {α : Type} {l : List α}
    {step : List (Value × Value) → α → List (Value × Value)}
    (hstep : ∀ acc a, HasDistinctKeys acc → HasDistinctKeys (step acc a))
    (h : HasDistinctKeys es) : HasDistinctKeys (l.foldl step es) := by
  induction l generalizing es with
  | nil => exact h
  | cons a l ih => exact ih (hstep es a h)

lemma HasDistinctKeys.overlay (h : HasDistinctKeys es) : HasDistinctKeys (overlay es top) :=
  h.foldl fun _ _ => HasDistinctKeys.putKey

lemma HasDistinctKeys.deepEntries (h : HasDistinctKeys es) :
    HasDistinctKeys (deepEntries top es) := by
  induction top generalizing es with
  | nil => rw [Value.deepEntries]; exact h
  | cons e top ih =>
    obtain ⟨key, v⟩ := e
    rw [Value.deepEntries]
    exact ih h.update

lemma hasTextKeys_overlay_iff :
    HasTextKeys (overlay es top) ↔ HasTextKeys es ∧ HasTextKeys top := by
  induction top generalizing es with
  | nil => exact (and_iff_left (List.forall_mem_nil _)).symm
  | cons e top ih =>
    obtain ⟨key, v⟩ := e
    have hput : HasTextKeys (putKey es key v) ↔ HasTextKeys es ∧ ∃ s, key = .str s := by
      rw [putKey_eq_update]
      exact hasTextKeys_update_iff
    have hcons : HasTextKeys ((key, v) :: top) ↔ (∃ s, key = .str s) ∧ HasTextKeys top :=
      List.forall_mem_cons
    change HasTextKeys (overlay (putKey es key v) top) ↔ _
    rw [ih, hput, hcons, and_assoc]

lemma HasTextKeys.overlay (h : HasTextKeys es) (htop : HasTextKeys top) :
    HasTextKeys (overlay es top) :=
  hasTextKeys_overlay_iff.mpr ⟨h, htop⟩

/-- Entries laid into others, of whose keys and values the same holds. -/
lemma forall_deepEntries {P Q : Value → Prop} (htop : ∀ e ∈ top, P e.1 ∧ Q e.2)
    (h : ∀ e ∈ es, P e.1 ∧ Q e.2) (hover : ∀ v old, Q v → Q (deepOver v old)) :
    ∀ e ∈ deepEntries top es, P e.1 ∧ Q e.2 := by
  induction top generalizing es with
  | nil =>
    rw [deepEntries]
    exact h
  | cons e top ih =>
    obtain ⟨⟨hkey, hv⟩, hrest⟩ := List.forall_mem_cons.mp htop
    obtain ⟨key, v⟩ := e
    rw [deepEntries]
    exact ih hrest (forall_update h hkey fun old => hover v old hv)

lemma HasTextKeys.deepEntries (h : HasTextKeys es) (htop : HasTextKeys top) :
    HasTextKeys (deepEntries top es) := by
  intro e he
  exact (forall_deepEntries (P := fun key => ∃ s, key = .str s) (Q := fun _ => True)
    (fun e he => ⟨htop e he, trivial⟩) (fun e he => ⟨h e he, trivial⟩) (fun _ _ _ => trivial) e he).1

/-! ### Mappings from texts -/

lemma isTextMapping_nil : IsTextMapping [] := ⟨by simp [HasTextKeys], hasDistinctKeys_nil⟩

lemma IsTextMapping.put (h : IsTextMapping es) : IsTextMapping (put es k v) := by
  refine ⟨?_, h.distinct.put⟩
  rw [put_eq_update]
  exact h.text.update

lemma IsTextMapping.overlay (h : IsTextMapping es) (htop : HasTextKeys top) :
    IsTextMapping (overlay es top) :=
  ⟨h.text.overlay htop, h.distinct.overlay⟩

lemma IsTextMapping.deepEntries (h : IsTextMapping es) (htop : HasTextKeys top) :
    IsTextMapping (deepEntries top es) :=
  ⟨h.text.deepEntries htop, h.distinct.deepEntries⟩

lemma IsTextMapping.insertAt {path : List String} (h : IsTextMapping es) :
    IsTextMapping (insertAt es path v) := by
  rcases path with _ | ⟨k, _ | ⟨k', path⟩⟩
  · exact h
  · exact h.put
  · rw [Value.insertAt]
    split
    · exact h.put
    · exact h
    · exact h.put
    · simp

/-- What is no mapping replaces what stands there. -/
lemma deepOver_of_ne_map {old : Option Value} (h : ∀ es, v ≠ .map es) : deepOver v old = v := by
  cases v with
  | map es => exact absurd rfl (h es)
  | _ => rw [deepOver]; simp

lemma deepOver_none : deepOver v none = v := by
  cases v <;> simp [deepOver]

lemma over?_none_right {top : Option Value} : over? top none = top := by
  rcases top with _ | v
  · rfl
  · rw [over?, deepOver_none]

lemma deepOver_map (new : List (Value × Value)) (old : Option Value) :
    (∃ es, old = some (.map es) ∧ deepOver (.map new) old = .map (deepEntries new es)) ∨
      ((∀ es, old ≠ some (.map es)) ∧ deepOver (.map new) old = .map new) := by
  rcases old with _ | old
  · exact Or.inr ⟨by simp, deepOver_none⟩
  · cases old with
    | map es => exact Or.inl ⟨es, rfl, by simp [deepOver]⟩
    | _ => exact Or.inr ⟨by simp, by simp [deepOver]⟩

lemma over?_eq_none_iff {top old : Option Value} :
    over? top old = none ↔ top = none ∧ old = none := by
  rcases top with _ | v <;> simp [over?]

/-- Where a mapping comes from that stands under a key. -/
lemma exists_of_over?_eq_map {top old : Option Value} (h : over? top old = some (.map es)) :
    (top = none ∧ old = some (.map es)) ∨ top = some (.map es) ∨
      ∃ new below, top = some (.map new) ∧ old = some (.map below) ∧ es = deepEntries new below := by
  rcases top with _ | v
  · exact Or.inl ⟨rfl, h⟩
  · rw [over?, Option.some.injEq] at h
    cases v with
    | map new =>
      rcases deepOver_map new old with ⟨below, hbelow, hover⟩ | ⟨-, hover⟩
      · exact Or.inr (Or.inr ⟨new, below, rfl, hbelow, map.inj (h.symm.trans hover)⟩)
      · exact Or.inr (Or.inl (congrArg some (hover.symm.trans h)))
    | _ => simp [deepOver] at h

/-- A mapping laid over another value. -/
lemma isTextMapping_of_over? {top old : Option Value} (h : over? top old = some (.map es))
    (htop : ∀ new, top = some (.map new) → IsTextMapping new)
    (hold : ∀ es, old = some (.map es) → IsTextMapping es) : IsTextMapping es := by
  rcases exists_of_over?_eq_map h with ⟨-, hes⟩ | hes | ⟨new, below, hnew, hbelow, rfl⟩
  · exact hold es hes
  · exact htop es hes
  · exact (hold below hbelow).deepEntries (htop new hnew).text

end Sieve.Value
