import Sieve.Proofs.Except
import Sieve.Proofs.Value.Entries
import Sieve.Settings.Variables
import Mathlib.Tactic.Common

/-!
What variables give.

They give a value for each field at most once. A variable holds the environment as an object, and
others hold single entries of it. So what variables give for the environment is a mapping from
texts, if it is a mapping at all.
-/

namespace Sieve

open Value

/-! ### Objects -/

namespace Json

variable {ms : List (String × Json)} {l : List Char} {k room : Nat}

lemma nodup_put {key : String} {v : Json} (h : (ms.map Prod.fst).Nodup) :
    ((put ms key v).map Prod.fst).Nodup := by
  have hkeys : (put ms key v).map Prod.fst = ms.map Prod.fst ∨
      (key ∉ ms.map Prod.fst ∧ (put ms key v).map Prod.fst = ms.map Prod.fst ++ [key]) := by
    clear h
    induction ms with
    | nil => exact Or.inr ⟨by simp, rfl⟩
    | cons m ms ih =>
      obtain ⟨name, w⟩ := m
      rw [put]
      split_ifs with hname
      · exact Or.inl rfl
      · rcases ih with ih | ⟨hnew, ih⟩
        · exact Or.inl (by simp [ih])
        · exact Or.inr ⟨by simpa [Ne.symm hname] using hnew, by simp [ih]⟩
  rcases hkeys with hkeys | ⟨hnew, hkeys⟩
  · rw [hkeys]
    exact h
  · rw [hkeys, ← List.concat_eq_append]
    exact List.Nodup.concat hnew h

lemma nodup_foldl_put {more : List (String × Json)} (h : (ms.map Prod.fst).Nodup) :
    ((more.foldl (fun a m => put a m.1 m.2) ms).map Prod.fst).Nodup := by
  induction more generalizing ms with
  | nil => exact h
  | cons m more ih => exact ih (nodup_put h)

lemma number?_ne_obj {r : List Char} : number? l ≠ some (.obj ms, r) := by
  unfold number?
  dsimp only
  split
  · simp
  · split_ifs <;> simp

lemma word?_ne_obj {r : List Char} : word? l ≠ some (.obj ms, r) := by
  intro h
  obtain ⟨w, hw, hword⟩ := List.exists_of_findSome?_eq_some h
  obtain ⟨rest, -, hrest⟩ := Option.map_eq_some_iff.mp hword
  have hobj : w.2 = .obj ms := congrArg Prod.fst hrest
  simp only [words, List.mem_cons, List.not_mem_nil, or_false] at hw
  rcases hw with rfl | rfl | rfl | rfl | rfl | rfl <;> cases hobj

lemma orMalformed_eq_ok_iff {α : Type} {o : Option α} {a : α} :
    orMalformed o = .ok a ↔ o = some a := by
  cases o <;> simp [orMalformed]

/-- An object has each key once. -/
lemma nodup_of_readValue {r : List Char} (h : readValue k room l = .ok (.obj ms, r)) :
    (ms.map Prod.fst).Nodup := by
  unfold readValue at h
  split at h
  · cases h
  · split at h
    · simp [orMalformed_eq_ok_iff] at h
    · split_ifs at h
      split at h <;> simp [map_eq_ok_iff] at h
    · split_ifs at h
      split at h
      · cases h
        exact List.nodup_nil
      · obtain ⟨⟨members, rest⟩, -, hobj⟩ := map_eq_ok_iff.mp h
        simp only [Prod.mk.injEq, Json.obj.injEq] at hobj
        rw [hobj.1]
        exact nodup_foldl_put List.nodup_nil
    · rw [orMalformed_eq_ok_iff] at h
      rcases hword : word? _ with _ | ⟨w, rest⟩ <;> rw [hword] at h
      · exact absurd h number?_ne_obj
      · cases h
        exact absurd hword word?_ne_obj

lemma nodup_of_read {text : String} (h : read room text = .ok (.obj ms)) :
    (ms.map Prod.fst).Nodup := by
  unfold read at h
  dsimp only at h
  split at h
  · rename_i v r hread
    split_ifs at h
    cases h
    exact nodup_of_readValue hread
  · cases h

end Json

lemma Value.isTextMapping_ofMembers {ms : List (String × Json)} (h : (ms.map Prod.fst).Nodup) :
    IsTextMapping (ofMembers ms) := by
  have hkeys : textKeys (ofMembers ms) = ms.map Prod.fst := by
    clear h
    induction ms with
    | nil => rfl
    | cons m ms ih => simp [ofMembers, textKeys_cons, ih, string?]
  refine ⟨?_, by rw [HasDistinctKeys, hkeys]; exact h⟩
  clear h hkeys
  induction ms with
  | nil => simp [ofMembers, HasTextKeys]
  | cons m ms ih => exact List.forall_mem_cons.mpr ⟨⟨m.1, rfl⟩, ih⟩

namespace Settings.Variables

variable {es : List (Value × Value)} {t : Table}

lemma isTextMapping_of_json {s : String} (h : json s = .ok (.map es)) : IsTextMapping es := by
  obtain ⟨j, hj, hes⟩ := map_eq_ok_iff.mp h
  cases j with
  | obj ms =>
    rw [Value.ofJson] at hes
    cases hes
    exact isTextMapping_ofMembers (Json.nodup_of_read hj)
  | _ => rw [Value.ofJson] at hes; cases hes

/-- What each step of a fold keeps. -/
lemma foldlM_inv {ε α β : Type} {P : β → Prop} {step : β → α → Except ε β} {l : List α} {b r : β}
    (hstep : ∀ b a b', P b → step b a = .ok b' → P b') (hb : P b)
    (h : l.foldlM step b = .ok r) : P r := by
  induction l generalizing b with
  | nil =>
    cases h
    exact hb
  | cons a l ih =>
    rw [List.foldlM_cons] at h
    obtain ⟨b', hb', h⟩ := bind_eq_ok_iff.mp h
    exact ih (hstep b a b' hb hb') h

/-- Parts of a field make a mapping from texts. -/
lemma isTextMapping_parts {field : String} {form : Form} (h : parts field form t = .ok es) :
    IsTextMapping es := by
  refine foldlM_inv (fun acc b acc' hacc hstep => ?_) isTextMapping_nil h
  dsimp only at hstep
  split_ifs at hstep
  · obtain ⟨value, -, rfl⟩ := map_eq_ok_iff.mp hstep
    exact hacc.insertAt
  · cases hstep
    exact hacc

/-- Variables for a field that is a dictionary give no other mapping than one from texts. -/
lemma isTextMapping_fieldValue {field : String}
    (h : fieldValue .dictionary field t = .ok (some (.map es))) : IsTextMapping es := by
  unfold fieldValue at h
  split at h
  · split at h
    · cases h
    · rename_i whole hwhole
      obtain ⟨more, hmore, hes⟩ := map_eq_ok_iff.mp h
      cases hes
      exact (isTextMapping_of_json hwhole).deepEntries (isTextMapping_parts hmore).text
    · rename_i v hnot hv
      cases h
      exact absurd rfl (hnot es)
  · rw [if_neg (by simp)] at h
    obtain ⟨more, hmore, hes⟩ := map_eq_ok_iff.mp h
    split_ifs at hes
    cases hes
    exact isTextMapping_parts hmore

/-- What a source gives for the fields of a list, each once. -/
lemma textKeys_entriesOf {source : Source} {l : List (String × Form)}
    (h : entriesOf source t l = .ok es) : (textKeys es).Sublist (l.map Prod.fst) := by
  induction l generalizing es with
  | nil =>
    cases h
    exact List.Sublist.slnil
  | cons f l ih =>
    obtain ⟨field, form⟩ := f
    rw [entriesOf] at h
    split at h
    · cases h
    · exact (ih h).cons field
    · rename_i v hv
      rcases hrest : entriesOf source t l with f | rest <;> rw [hrest] at h
      · cases h
      · cases h
        exact (ih hrest).cons_cons field

lemma mem_entriesOf {source : Source} {l : List (String × Form)} {e : Value × Value}
    (h : entriesOf source t l = .ok es) (he : e ∈ es) :
    ∃ field form v, (field, form) ∈ l ∧ e = (.str field, renamed form v) ∧
      fieldValue form field t = .ok (some v) := by
  induction l generalizing es with
  | nil =>
    cases h
    cases he
  | cons f l ih =>
    obtain ⟨field, form⟩ := f
    rw [entriesOf] at h
    split at h
    · cases h
    · obtain ⟨field', form', v, hmem, hv⟩ := ih h he
      exact ⟨field', form', v, List.mem_cons_of_mem _ hmem, hv⟩
    · rename_i v hv
      rcases hrest : entriesOf source t l with f | rest <;> rw [hrest] at h
      · cases h
      · cases h
        rcases List.mem_cons.mp he with rfl | he
        · exact ⟨field, form, v, List.mem_cons_self, rfl, hv⟩
        · obtain ⟨field', form', v', hmem, hv'⟩ := ih hrest he
          exact ⟨field', form', v', List.mem_cons_of_mem _ hmem, hv'⟩

lemma eq_skipKey_of_mem_skipEntries {e : Value × Value} (h : e ∈ skipEntries t) :
    e.1 = .str skipKey := by
  obtain ⟨name, -, hname⟩ := List.mem_filterMap.mp h
  split at hname
  · split_ifs at hname
    cases hname
    rfl
  · cases hname

lemma lookup_skipEntries {k : String} (hk : k ≠ skipKey) : lookup (skipEntries t) k = none := by
  refine lookup_eq_none_of_not_mem fun h => ?_
  obtain ⟨e, he, hkey⟩ := List.mem_filterMap.mp h
  rw [eq_skipKey_of_mem_skipEntries he] at hkey
  exact hk (Option.some.inj hkey).symm

/-- What a source gives: a value for each of some fields, and the key that keeps files from being
read. -/
lemma entries_eq_ok {source : Source} (h : entries source t = .ok es) :
    ∃ given, entriesOf source t fields = .ok given ∧
      (es = given ∨ (source = .file ∧ es = given ++ skipEntries t)) := by
  unfold entries at h
  rcases hfields : entriesOf source t fields with f | given <;> rw [hfields] at h
  · cases h
  · refine ⟨given, rfl, ?_⟩
    cases h
    by_cases hsource : source = .file
    · exact Or.inr ⟨hsource, if_pos hsource⟩
    · exact Or.inl (if_neg hsource)

/-- What stands under the key of a field is the value of its variables. -/
lemma exists_of_lookup_entries {source : Source} {k : String} {w : Value}
    (h : entries source t = .ok es) (hk : k ≠ skipKey) (hw : lookup es k = some w) :
    ∃ form v, (k, form) ∈ fields ∧ w = renamed form v ∧ fieldValue form k t = .ok (some v) := by
  obtain ⟨given, hfields, hes⟩ := entries_eq_ok h
  have hgiven : lookup given k = some w := by
    rcases hes with rfl | ⟨-, rfl⟩
    · exact hw
    · rwa [lookup_append, lookup_skipEntries hk, Option.or_none] at hw
  obtain ⟨field, form, v, hmem, he, hv⟩ := mem_entriesOf hfields (mem_of_lookup hgiven)
  obtain ⟨hfield, hvalue⟩ := Prod.mk.inj he
  obtain rfl := Value.str.inj hfield
  exact ⟨form, v, hmem, hvalue, hv⟩

/-- The environment that a source gives is a mapping from texts, if it is a mapping. -/
theorem isTextMapping_entries {source : Source} (h : entries source t = .ok es)
    {env : List (Value × Value)} (henv : lookup es "env" = some (.map env)) :
    IsTextMapping env := by
  obtain ⟨form, v, hmem, hmap, hv⟩ := exists_of_lookup_entries h (by decide) henv
  simp only [fields, List.mem_cons, Prod.mk.injEq, String.reduceEq, false_and, true_and,
    List.not_mem_nil, or_false, false_or] at hmem
  subst hmem
  obtain rfl : v = .map env := hmap.symm
  exact isTextMapping_fieldValue hv

lemma hasDistinctKeys_renameParts : HasDistinctKeys (renameParts es) := by
  refine HasDistinctKeys.foldl (fun acc e h => ?_) hasDistinctKeys_nil
  obtain ⟨key, v⟩ := e
  cases key with
  | str name => exact h.put
  | _ => exact h.putKey

/-- What a source gives of the log has each key once, if it is a mapping. -/
lemma hasDistinctKeys_logging {source : Source} (h : entries source t = .ok es)
    {inner : List (Value × Value)} (hlogging : lookup es "logging" = some (.map inner)) :
    HasDistinctKeys inner := by
  obtain ⟨form, v, hmem, hmap, -⟩ := exists_of_lookup_entries h (by decide) hlogging
  simp only [fields, List.mem_cons, Prod.mk.injEq, String.reduceEq, false_and, true_and,
    List.not_mem_nil, or_false, false_or] at hmem
  subst hmem
  cases v with
  | map parts =>
    cases hmap
    exact hasDistinctKeys_renameParts
  | _ => cases hmap

/-- A source gives no entry twice, unless it keeps files from being read. -/
lemma hasDistinctKeys_entries {source : Source} (h : entries source t = .ok es)
    (hskip : lookup es skipKey = none) : HasDistinctKeys es := by
  obtain ⟨given, hfields, hes⟩ := entries_eq_ok h
  have hgiven : HasDistinctKeys given :=
    List.Nodup.sublist (textKeys_entriesOf hfields) (by decide)
  rcases hes with rfl | ⟨-, rfl⟩
  · exact hgiven
  · rcases hentries : skipEntries t with _ | ⟨e, l⟩
    · rwa [List.append_nil]
    · have he : e.1 = .str skipKey := eq_skipKey_of_mem_skipEntries (t := t) (by simp [hentries])
      rw [hentries, lookup_append, lookup_cons, if_pos (by rw [he]; rfl)] at hskip
      simp at hskip

/-- A process gives no entry twice. -/
lemma hasDistinctKeys_process (h : entries .process t = .ok es) : HasDistinctKeys es := by
  obtain ⟨given, hfields, rfl | ⟨hsource, -⟩⟩ := entries_eq_ok h
  · exact List.Nodup.sublist (textKeys_entriesOf hfields) (by decide)
  · cases hsource

/-! ### Other variables -/

lemma ofBindings_names {l : List EnvFile.Binding} {P : String → Prop}
    (h : ∀ b ∈ l, P (Text.lower b.1)) : ∀ b ∈ Table.ofBindings l, P b.1 := by
  have hput : ∀ (t : Table) b, (∀ c ∈ t, P c.1) → P b.1 → ∀ c ∈ EnvFile.put t b, P c.1 := by
    intro t b ht hb
    induction t with
    | nil => exact List.forall_mem_singleton.mpr hb
    | cons a t ih =>
      obtain ⟨ha, ht⟩ := List.forall_mem_cons.mp ht
      rw [EnvFile.put]
      split_ifs
      · exact List.forall_mem_cons.mpr ⟨hb, ht⟩
      · exact List.forall_mem_cons.mpr ⟨ha, ih ht⟩
  unfold Table.ofBindings
  suffices hfold : ∀ t : Table, (∀ c ∈ t, P c.1) →
      ∀ c ∈ l.foldl (fun t (b : EnvFile.Binding) => EnvFile.put t (Text.lower b.1, b.2)) t, P c.1 from
    hfold [] (List.forall_mem_nil _)
  induction l with
  | nil => exact fun t ht => ht
  | cons b l ih =>
    obtain ⟨hb, hl⟩ := List.forall_mem_cons.mp h
    exact fun t ht => ih hl _ (hput t _ ht hb)

lemma parts_of_unnamed {field : String} {form : Form} (h : ∀ b ∈ t, ¬ start.toList <+: b.1.toList) :
    parts field form t = .ok [] := by
  unfold parts
  dsimp only
  induction t with
  | nil => rfl
  | cons b t ih =>
    obtain ⟨hb, ht⟩ := List.forall_mem_cons.mp h
    have hhead : (start ++ field ++ separator).toList.isPrefixOf b.1.toList = false := by
      rw [Bool.eq_false_iff, ne_eq, List.isPrefixOf_iff_prefix]
      refine fun hprefix => hb (List.IsPrefix.trans ?_ hprefix)
      rw [String.toList_append, String.toList_append, List.append_assoc]
      exact List.prefix_append _ _
    rw [List.foldlM_cons]
    simp only [hhead, Bool.false_eq_true, if_false]
    exact ih ht

lemma fieldValue_of_unnamed {field : String} {form : Form}
    (h : ∀ b ∈ t, ¬ start.toList <+: b.1.toList) :
    fieldValue form field t = .ok none := by
  have hlookup : t.lookup (start ++ field) = none := by
    refine List.lookup_eq_none_iff.mpr fun b hb => ?_
    rw [bne_iff_ne]
    rintro heq
    refine h b hb ?_
    rw [← heq, String.toList_append]
    exact List.prefix_append _ _
  unfold fieldValue
  rw [hlookup, parts_of_unnamed h]
  simp [Except.map]

lemma entriesOf_of_unnamed {source : Source} (h : ∀ b ∈ t, ¬ start.toList <+: b.1.toList) :
    ∀ l, entriesOf source t l = .ok [] := by
  intro l
  induction l with
  | nil => rfl
  | cons f l ih => rw [entriesOf, fieldValue_of_unnamed h, ih]

/-- Variables with other names give nothing. -/
lemma entries_of_unnamed {source : Source}
    (h : ∀ b ∈ t, ¬ start.toList <+: b.1.toList ∧ b.1 ≠ skipKey) :
    entries source t = .ok [] := by
  have hlookup : ∀ name ∈ [skipKey, start ++ skipKey], t.lookup name = none := by
    intro name hname
    refine List.lookup_eq_none_iff.mpr fun b hb => ?_
    rw [bne_iff_ne]
    rintro rfl
    rcases List.mem_cons.mp hname with hskip | hstart
    · exact (h b hb).2 hskip
    · refine (h b hb).1 ?_
      rw [List.mem_singleton.mp hstart, String.toList_append]
      exact List.prefix_append _ _
  have hskip : skipEntries t = [] := by
    unfold skipEntries
    rw [List.filterMap_eq_nil_iff]
    intro name hname
    rw [hlookup name hname]
    rfl
  rw [entries, entriesOf_of_unnamed fun b hb => (h b hb).1, hskip]
  change Except.ok (if source = .file then [] else []) = _
  rw [ite_self]

end Settings.Variables

end Sieve
