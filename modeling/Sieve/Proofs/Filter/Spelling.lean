import Sieve.Proofs.Filter.Conjunction

/-!
Which filters can be spelled.

A filter is written as an expression by joining its words, those that are excluded behind a minus
sign. The expression is read back as the same filter, word for word, if each word can stand between
separators. No expression spells any other filter.
-/

namespace Sieve

open Text

/-! ### Words -/

/-- A word that can stand between separators: it is not empty, has no blank at its ends and holds no
separator. -/
structure IsWord (seps : List Char) (w : String) : Prop where
  nonempty : w ≠ ""
  head : ∀ c ∈ w.toList.head?, isBlank c = false
  last : ∀ c ∈ w.toList.getLast?, isBlank c = false
  apart : ∀ c ∈ seps, c ∉ w.toList

/-- A word that is not read as an excluded one. -/
structure IsPositiveWord (seps : List Char) (w : String) : Prop extends IsWord seps w where
  plain : w.toList.head? ≠ some '-'

/-- A word as it is excluded. -/
def negation (w : String) : String := "-" ++ w

section Words

variable {seps : List Char} {sep : Char} {l : List Char} {w : String}

lemma toList_negation : (negation w).toList = '-' :: w.toList := by
  simp [negation]

lemma IsWord.trims (h : IsWord seps w) : Trims w.toList w.toList :=
  ⟨⟨[], [], by simp, by simp, by simp⟩, h.head, h.last⟩

lemma IsWord.trims_negation (h : IsWord seps w) : Trims (negation w).toList ('-' :: w.toList) := by
  have hne : w.toList ≠ [] := by simpa using h.nonempty
  have hdash : isBlank '-' = false := by decide
  refine ⟨⟨[], [], by simp [toList_negation], by simp, by simp⟩, by simpa using hdash,
    fun c hc => ?_⟩
  rw [List.getLast?_cons_of_ne_nil hne] at hc
  exact h.last c hc

lemma between_of_not_mem (h : sep ∉ l) : Token.between sep l = (Token.ofPiece? l).toList := by
  rw [Token.between, splitOn_of_not_mem h]
  rcases hpiece : Token.ofPiece? l with _ | t <;> simp [hpiece]

lemma IsPositiveWord.between (h : IsPositiveWord seps w) (hsep : sep ∈ seps) :
    Token.between sep w.toList = [.positive w] := by
  have hpiece : Token.ofPiece? w.toList = some (.positive w) :=
    Token.ofPiece?_eq_positive_iff.mpr ⟨h.trims, h.nonempty, h.plain⟩
  rw [between_of_not_mem (h.apart sep hsep), hpiece]
  rfl

lemma IsWord.between_negation (h : IsWord seps w) (hsep : sep ∈ seps) (hdash : sep ≠ '-') :
    Token.between sep (negation w).toList = [.negative w] := by
  have hpiece : Token.ofPiece? (negation w).toList = some (.negative w) :=
    Token.ofPiece?_eq_negative_iff.mpr ⟨w.toList, h.trims_negation, h.trims, h.nonempty⟩
  have hapart : sep ∉ (negation w).toList := by
    rw [toList_negation, List.mem_cons, not_or]
    exact ⟨hdash, h.apart sep hsep⟩
  rw [between_of_not_mem hapart, hpiece]
  rfl

/-- Words joined by the separator are read one after the other. -/
lemma between_join {joint : String} (hjoint : joint.toList = [sep]) (ws : List String) :
    Token.between sep (joint.intercalate ws).toList =
      ws.flatMap fun w => Token.between sep w.toList := by
  rcases ws with _ | ⟨w, ws⟩
  · simp [between_nil]
  · rw [Token.between, String.toList_intercalate, hjoint, splitOn_join (by simp),
      List.filterMap_flatMap, List.flatMap_map]
    rfl

lemma flatMap_between_words {ws : List String} (h : ∀ w ∈ ws, IsPositiveWord seps w)
    (hsep : sep ∈ seps) :
    (ws.flatMap fun w => Token.between sep w.toList) = ws.map Token.positive := by
  rw [List.map_eq_flatMap]
  exact List.flatMap_congr fun w hw => (h w hw).between hsep

lemma flatMap_between_negations {ws : List String} (h : ∀ w ∈ ws, IsWord seps w)
    (hsep : sep ∈ seps) (hdash : sep ≠ '-') :
    ((ws.map negation).flatMap fun w => Token.between sep w.toList) = ws.map Token.negative := by
  rw [List.flatMap_map, List.map_eq_flatMap]
  exact List.flatMap_congr fun w hw => (h w hw).between_negation hsep hdash

end Words

/-! ### What is read -/

section Reading

variable {seps : List Char} {sep c : Char} {l p : List Char} {w : String}

lemma Trims.mem {w : List Char} (h : Trims l w) (hc : c ∈ w) : c ∈ l := by
  obtain ⟨⟨a, b, rfl, -⟩, -⟩ := h
  simp [hc]

lemma IsPiece.mem (h : IsPiece sep l p) (hc : c ∈ p) : c ∈ l := by
  obtain ⟨-, before, after, rfl, -⟩ := h
  simp [hc]

/-- What a piece holds is no separator, if none but that of the piece stands in the text. -/
lemma not_mem_of_isPiece (hpiece : IsPiece sep l p) (hl : ∀ c ∈ seps, c ≠ sep → c ∉ l)
    (hc : c ∈ seps) : c ∉ p := by
  by_cases hsep : c = sep
  · exact hsep ▸ hpiece.1
  · exact fun hmem => hl c hc hsep (IsPiece.mem hpiece hmem)

lemma isPositiveWord_of_positiveIn (h : PositiveIn sep l w)
    (hl : ∀ c ∈ seps, c ≠ sep → c ∉ l) : IsPositiveWord seps w := by
  obtain ⟨piece, hpiece, htrims, hne, hplain⟩ := h
  exact ⟨⟨hne, htrims.2.1, htrims.2.2, fun c hc hmem =>
    not_mem_of_isPiece hpiece hl hc (Trims.mem htrims hmem)⟩, hplain⟩

lemma isWord_of_negativeIn (h : NegativeIn sep l w) (hl : ∀ c ∈ seps, c ≠ sep → c ∉ l) :
    IsWord seps w := by
  obtain ⟨piece, rest, hpiece, hdash, htrims, hne⟩ := h
  refine ⟨hne, htrims.2.1, htrims.2.2, fun c hc hmem => not_mem_of_isPiece hpiece hl hc ?_⟩
  exact Trims.mem hdash (List.mem_cons_of_mem _ (Trims.mem htrims hmem))

end Reading

/-! ### Title filters -/

namespace TitleFilter

variable {f : TitleFilter}

/-- Each word can be written, and one that is asked for is not read as excluded. -/
structure IsWritable (f : TitleFilter) : Prop where
  words : ∀ w ∈ f.words, IsPositiveWord [';'] w
  negated : ∀ w ∈ f.negated, IsWord [';'] w

/-- The filter as an expression. -/
def expression (f : TitleFilter) : String := ";".intercalate (f.words ++ f.negated.map negation)

/-- **A title filter is read back** from its expression. -/
theorem ofExpression_expression (h : f.IsWritable) : ofExpression f.expression = f := by
  have htokens : Token.between ';' f.expression.toList =
      f.words.map .positive ++ f.negated.map .negative := by
    rw [expression, between_join rfl, List.flatMap_append,
      flatMap_between_words h.words List.mem_cons_self,
      flatMap_between_negations h.negated List.mem_cons_self (by decide)]
  obtain ⟨words, negated⟩ := f
  rw [ofExpression, htokens]
  simp [List.filterMap_map, Function.comp_def, Token.positive?, Token.negative?]

/-- What is read can be written. -/
theorem isWritable_ofExpression (g : String) : (ofExpression g).IsWritable where
  words w hw := isPositiveWord_of_positiveIn (Token.mem_positives_iff.mp hw) (by simp)
  negated w hw := isWord_of_negativeIn (Token.mem_negatives_iff.mp hw) (by simp)

end TitleFilter

/-! ### Tag filters -/

namespace TagFilter

variable {f : TagFilter}

/-- No group is empty, each tag can be written, and one that is asked for is not read as
excluded. -/
structure IsWritable (f : TagFilter) : Prop where
  nonempty : ∀ group ∈ f.groups, group ≠ []
  groups : ∀ group ∈ f.groups, ∀ w ∈ group, IsPositiveWord [',', '+'] w
  inverted : ∀ w ∈ f.inverted, IsWord [',', '+'] w

/-- The parts of the expression: the groups, then the excluded tags one by one. -/
def parts (f : TagFilter) : List String :=
  f.groups.map (",".intercalate ·) ++ f.inverted.map negation

/-- The filter as an expression. -/
def expression (f : TagFilter) : String := "+".intercalate f.parts

lemma tokenGroups_of_not_mem {p : String} (h : '+' ∉ p.toList) :
    tokenGroups p = [Token.between ',' p.toList] := by
  rw [tokenGroups, splitOn_of_not_mem h, List.map_singleton]

lemma not_mem_join {c : Char} {joint : String} {ws : List String} (hjoint : c ∉ joint.toList)
    (h : ∀ w ∈ ws, c ∉ w.toList) : c ∉ (joint.intercalate ws).toList := by
  rw [String.toList_intercalate]
  induction ws with
  | nil => simp
  | cons w ws ih =>
    obtain ⟨hw, hrest⟩ := List.forall_mem_cons.mp h
    cases ws with
    | nil => simpa using hw
    | cons w' ws =>
      have hjoined := ih hrest
      simp only [List.map_cons, List.intercalate_cons_cons, List.mem_append, not_or] at hjoined ⊢
      exact ⟨⟨hw, hjoint⟩, hjoined⟩

/-- The tokens of the expression, group by group. -/
lemma flatMap_tokenGroups_parts (h : f.IsWritable) :
    f.parts.flatMap tokenGroups =
      f.groups.map (·.map .positive) ++ f.inverted.map fun w => [.negative w] := by
  have hcomma : ',' ∈ [',', '+'] := List.mem_cons_self
  have hgroup : ∀ group ∈ f.groups,
      tokenGroups (",".intercalate group) = [group.map .positive] := by
    intro group hmem
    have hplus : '+' ∉ (",".intercalate group).toList := by
      refine not_mem_join (by decide) fun w hw => ?_
      exact (h.groups group hmem w hw).apart '+' (by simp)
    rw [tokenGroups_of_not_mem hplus, between_join rfl,
      flatMap_between_words (h.groups group hmem) hcomma]
  have hinverted : ∀ w ∈ f.inverted, tokenGroups (negation w) = [[.negative w]] := by
    intro w hmem
    have hplus : '+' ∉ (negation w).toList := by
      rw [toList_negation, List.mem_cons, not_or]
      exact ⟨by decide, (h.inverted w hmem).apart '+' (by simp)⟩
    rw [tokenGroups_of_not_mem hplus, (h.inverted w hmem).between_negation hcomma (by decide)]
  rw [parts, List.flatMap_append, List.flatMap_map, List.flatMap_map, List.map_eq_flatMap,
    List.map_eq_flatMap, List.flatMap_congr hgroup, List.flatMap_congr hinverted]

/-- **A tag filter is read back** from its expression. -/
theorem ofExpression_expression (h : f.IsWritable) : ofExpression f.expression = f := by
  by_cases hparts : f.parts = []
  · obtain ⟨groups, inverted⟩ := f
    obtain ⟨rfl, rfl⟩ : groups = [] ∧ inverted = [] := by simpa [parts] using hparts
    rfl
  · have htokens : tokenGroups f.expression =
        f.groups.map (·.map .positive) ++ f.inverted.map fun w => [.negative w] := by
      rw [expression, tokenGroups_join hparts, flatMap_tokenGroups_parts h]
    have hnonempty : f.groups.filter (!·.isEmpty) = f.groups := by
      refine List.filter_eq_self.mpr fun group hmem => ?_
      simpa using h.nonempty group hmem
    rw [ofExpression, htokens]
    obtain ⟨groups, inverted⟩ := f
    simp [hnonempty, List.filterMap_map, List.flatMap_map, Function.comp_def, Token.positive?,
      Token.negative?]

/-- What is read can be written. -/
theorem isWritable_ofExpression (x : String) : (ofExpression x).IsWritable where
  nonempty group hgroup := by
    obtain ⟨-, hne⟩ := List.mem_filter.mp hgroup
    simpa using hne
  groups group hgroup w hw := by
    obtain ⟨tokens, htokens, rfl⟩ := List.mem_map.mp (List.mem_filter.mp hgroup).1
    obtain ⟨piece, hpiece, rfl⟩ := List.mem_map.mp htokens
    refine isPositiveWord_of_positiveIn (Token.mem_positives_iff.mp hw) ?_
    simpa using (mem_splitOn_iff.mp hpiece).1
  inverted w hw := by
    obtain ⟨tokens, htokens, hw⟩ := List.mem_flatMap.mp hw
    obtain ⟨piece, hpiece, rfl⟩ := List.mem_map.mp htokens
    refine isWord_of_negativeIn (Token.mem_negatives_iff.mp hw) ?_
    simpa using (mem_splitOn_iff.mp hpiece).1

end TagFilter

/-- **The filters that expressions spell** are those that can be written: each word begins and ends
without a blank and holds no separator, no word that is asked for begins with a minus sign, and no
group is empty. -/
theorem spelled_iff_isWritable :
    (∀ f : TagFilter, (∃ x, TagFilter.ofExpression x = f) ↔ f.IsWritable) ∧
      ∀ f : TitleFilter, (∃ g, TitleFilter.ofExpression g = f) ↔ f.IsWritable := by
  refine ⟨fun f => ⟨?_, fun h => ?_⟩, fun f => ⟨?_, fun h => ?_⟩⟩
  · rintro ⟨x, rfl⟩
    exact TagFilter.isWritable_ofExpression x
  · exact ⟨f.expression, TagFilter.ofExpression_expression h⟩
  · rintro ⟨g, rfl⟩
    exact TitleFilter.isWritable_ofExpression g
  · exact ⟨f.expression, TitleFilter.ofExpression_expression h⟩

example : TagFilter.ofExpression "b , - c + --a" = ⟨[["b"]], ["c", "-a"]⟩ := by decide +kernel

end Sieve
