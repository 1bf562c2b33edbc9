import Sieve.Files.Path
import Sieve.Proofs.Text.Pieces

/-!
Paths and their texts.

The text of an absolute path is cut at its slashes into the names of the path. A path is resolved
name by name, so that no dots are left in it.
-/

namespace Sieve.Files

/-- A name that a file or a directory may have. -/
def IsName (n : String) : Prop := n ≠ "" ∧ n ≠ "." ∧ n ≠ ".." ∧ '/' ∉ n.toList

instance (n : String) : Decidable (IsName n) := inferInstanceAs (Decidable (_ ∧ _ ∧ _ ∧ _))

namespace Path

/-- The path of a file or a directory below the root. -/
structure IsProper (p : Path) : Prop where
  rooted : p.anchor = .root
  nonempty : p.parts ≠ []
  names : ∀ n ∈ p.parts, IsName n

variable {p q : Path} {parts names : List String} {n : String}

/-! ### Resolving -/

lemma mem_foldl_stepTo (h : n ∈ names.foldl stepTo parts) :
    n ∈ parts ∨ n ∈ names ∧ n ≠ "." ∧ n ≠ ".." := by
  induction names generalizing parts with
  | nil => exact Or.inl h
  | cons name names ih =>
    rcases ih h with hstep | ⟨hmem, hdots⟩
    · unfold stepTo at hstep
      split_ifs at hstep with hdot hdots
      · exact Or.inl hstep
      · exact Or.inl (List.mem_of_mem_dropLast hstep)
      · rcases List.mem_append.mp hstep with hmem | hmem
        · exact Or.inl hmem
        · rw [List.mem_singleton.mp hmem]
          exact Or.inr ⟨List.mem_cons_self, hdot, hdots⟩
    · exact Or.inr ⟨List.mem_cons_of_mem name hmem, hdots⟩

/-- No dots are left in a path that is read in a directory. -/
lemma ne_dots_of_mem_absolute (h : n ∈ (p.absolute q).parts) : n ≠ "." ∧ n ≠ ".." :=
  ((mem_foldl_stepTo h).resolve_left List.not_mem_nil).2

lemma ne_dots_of_mem_resolve (h : n ∈ (p.resolve q).parts) : n ≠ "." ∧ n ≠ ".." :=
  ne_dots_of_mem_absolute h

/-- What a text leads to is made of names that files may have. -/
lemma isName_of_mem_foldl_stepTo {s : String} (hparts : ∀ n ∈ parts, IsName n)
    (h : n ∈ (ofText s).parts.foldl stepTo parts) : IsName n := by
  rcases mem_foldl_stepTo h with hmem | ⟨hmem, hdot, hdots⟩
  · exact hparts n hmem
  · obtain ⟨hpiece, hne⟩ := List.mem_filter.mp hmem
    obtain ⟨l, hl, rfl⟩ := List.mem_map.mp hpiece
    have hslash := (Text.mem_splitOn_iff.mp hl).1
    exact ⟨fun h => by simp [h] at hne, hdot, hdots, by rwa [String.toList_ofList]⟩

lemma foldl_stepTo (h : ∀ n ∈ names, n ≠ "." ∧ n ≠ "..") :
    names.foldl stepTo parts = parts ++ names := by
  induction names generalizing parts with
  | nil => exact (List.append_nil _).symm
  | cons name names ih =>
    obtain ⟨⟨hdot, hdots⟩, hnames⟩ := List.forall_mem_cons.mp h
    rw [List.foldl_cons, stepTo, if_neg hdot, if_neg hdots, ih hnames, List.append_assoc]
    rfl

/-- An absolute path is itself, whatever it is read in. -/
lemma join_of_isAbsolute (h : q.isAbsolute = true) : p.join q = q := by
  rw [join, if_pos h]

/-- A path below the root is resolved already, whatever it is read in. -/
lemma IsProper.resolve (h : q.IsProper) : p.resolve q = q := by
  have hjoin : p.join q = q := join_of_isAbsolute (by simp [isAbsolute, h.rooted])
  have hdots : ∀ n ∈ q.parts, n ≠ "." ∧ n ≠ ".." := fun n hn =>
    ⟨(h.names n hn).2.1, (h.names n hn).2.2.1⟩
  unfold Path.resolve Path.absolute
  simp only [hjoin, foldl_stepTo hdots, List.nil_append, h.rooted, Anchor.place]
  rw [← h.rooted]

/-- What is read in an absolute directory is resolved to a place below the root. -/
lemma anchor_resolve (h : p.anchor ≠ .here) : (p.resolve q).anchor = .root := by
  have hplace : ∀ a : Anchor, a ≠ .here → a.place = .root := by
    rintro (_ | _ | _) ha
    · exact absurd rfl ha
    · rfl
    · rfl
  refine hplace _ ?_
  unfold Path.absolute join
  split_ifs with habs
  · simpa [isAbsolute] using habs
  · exact h

lemma absolute_resolve (h : p.anchor ≠ .here) : (p.resolve q).anchor ≠ .here := by
  rw [anchor_resolve h]
  decide

lemma absolute_join (h : p.anchor ≠ .here) : (p.join q).anchor ≠ .here := by
  unfold join
  split_ifs with hq
  · simpa [isAbsolute] using hq
  · exact h

/-! ### Texts -/

lemma toList_text (h : p.anchor = .root) :
    p.text.toList = '/' :: ['/'].intercalate (p.parts.map String.toList) := by
  have hempty : ("/" ++ "/".intercalate p.parts).isEmpty = false := by simp
  unfold text
  simp only [h, Anchor.text, hempty, Bool.false_eq_true, if_false]
  rw [String.toList_append, String.toList_intercalate]
  rfl

lemma splitOn_intercalate (hnames : ∀ n ∈ names, IsName n) (hne : names ≠ []) :
    Text.splitOn '/' (['/'].intercalate (names.map String.toList)) = names.map String.toList := by
  rw [Text.splitOn_eq]
  refine List.splitOn_intercalate '/' ?_ (by simpa using hne)
  simp only [List.mem_map, forall_exists_index, and_imp, forall_apply_eq_imp_iff₂]
  exact fun n hn => (hnames n hn).2.2.2

lemma splitOn_text (h : p.IsProper) :
    Text.splitOn '/' p.text.toList = [] :: p.parts.map String.toList := by
  rw [toList_text h.rooted]
  exact congrArg (List.cons []) (splitOn_intercalate h.names h.nonempty)

/-- **The text of a path** is cut into its names. -/
theorem pieces_text (h : p.IsProper) : (Text.pieces '/' p.text).filter (· != "") = p.parts := by
  have hparts : p.parts.filter (· != "") = p.parts :=
    List.filter_eq_self.mpr fun n hn => by simpa using (h.names n hn).1
  rw [Text.pieces, splitOn_text h, List.map_cons, List.map_map]
  simpa [Function.comp_def] using hparts

lemma anchorOf_text (h : p.IsProper) : anchorOf p.text.toList = p.anchor := by
  obtain ⟨n, names, hparts⟩ := List.exists_cons_of_ne_nil h.nonempty
  obtain ⟨hne, -, -, hslash⟩ := h.names n (by rw [hparts]; exact List.mem_cons_self)
  obtain ⟨c, cs, hn⟩ := List.exists_cons_of_ne_nil (fun hnil => hne (String.toList_eq_nil_iff.mp hnil))
  have hc : c ≠ '/' := fun hc => hslash (by rw [hn, hc]; exact List.mem_cons_self)
  -- The first name begins with another character than a slash.
  obtain ⟨r, hr⟩ : ∃ r, ['/'].intercalate (p.parts.map String.toList) = c :: r := by
    rw [hparts, List.map_cons, hn]
    rcases names with _ | ⟨n', names⟩
    · exact ⟨cs, by simp⟩
    · exact ⟨_, by rw [List.map_cons, List.intercalate_cons_cons]; rfl⟩
  rw [toList_text h.rooted, hr, h.rooted]
  simp [anchorOf, hc]

/-- Behind a separator at the end there is an empty piece. -/
lemma getLast?_splitOn {l : List Char} (h : l.getLast?.all (· == '/') = true) :
    (Text.splitOn '/' l).getLast? = some [] := by
  rcases hlast : l.getLast? with _ | c
  · rw [List.getLast?_eq_none_iff.mp hlast]
    rfl
  · obtain ⟨l', rfl⟩ := List.getLast?_eq_some_iff.mp hlast
    rw [hlast, Option.all_some, beq_iff_eq] at h
    rw [h, Text.splitOn_append_sep]
    simp [Text.splitOn]

/-- No slash stands at the end. -/
lemma getLast?_text (h : p.IsProper) : p.text.toList.getLast?.all (· == '/') = false := by
  rw [← Bool.not_eq_true]
  intro hslash
  have hlast := getLast?_splitOn hslash
  have hparts : p.parts.map String.toList ≠ [] := by simpa using h.nonempty
  rw [splitOn_text h, List.getLast?_cons_of_ne_nil hparts, List.getLast?_map,
    Option.map_eq_some_iff] at hlast
  obtain ⟨n, hn, hempty⟩ := hlast
  exact (h.names n (List.mem_of_getLast? hn)).1 (String.toList_eq_nil_iff.mp hempty)

/-! ### Texts of names alone -/

/-- Names alone are written with slashes between them. -/
lemma toList_text_here (hnames : ∀ n ∈ names, IsName n) (hne : names ≠ []) :
    (Path.text ⟨.here, names⟩).toList = ['/'].intercalate (names.map String.toList) := by
  have hjoin := String.toList_intercalate (s := "/") (l := names)
  have hfull : ("/".intercalate names).isEmpty = false := by
    rw [← Bool.not_eq_true, String.isEmpty_iff]
    intro hempty
    have hcut := splitOn_intercalate hnames hne
    rw [← show "/".toList = ['/'] from rfl, ← hjoin, hempty] at hcut
    have hmem : [] ∈ names.map String.toList := by
      rw [← hcut]
      exact List.mem_singleton_self []
    obtain ⟨n, hn, hnil⟩ := List.mem_map.mp hmem
    exact (hnames n hn).1 (String.toList_eq_nil_iff.mp hnil)
  unfold text
  simp only [Anchor.text, String.empty_append, hfull, Bool.false_eq_true, if_false]
  exact hjoin

lemma splitOn_text_here (hnames : ∀ n ∈ names, IsName n) (hne : names ≠ []) :
    Text.splitOn '/' (Path.text ⟨.here, names⟩).toList = names.map String.toList := by
  rw [toList_text_here hnames hne, splitOn_intercalate hnames hne]

lemma toList_text_here_append {after : List String} (hnames : ∀ m ∈ names ++ after, IsName m)
    (hne : names ≠ []) (hafter : after ≠ []) :
    (Path.text ⟨.here, names ++ after⟩).toList =
      (Path.text ⟨.here, names⟩).toList ++ '/' :: (Path.text ⟨.here, after⟩).toList := by
  obtain ⟨hinit, hrest⟩ := List.forall_mem_append.mp hnames
  rw [toList_text_here hnames (by simp [hne]), List.map_append, ← splitOn_text_here hinit hne,
    ← splitOn_text_here hrest hafter, ← Text.splitOn_append_sep, Text.splitOn_eq,
    List.intercalate_splitOn]

lemma toList_text_here_concat (hnames : ∀ m ∈ names ++ [n], IsName m) (hne : names ≠ []) :
    (Path.text ⟨.here, names ++ [n]⟩).toList =
      (Path.text ⟨.here, names⟩).toList ++ '/' :: n.toList := by
  have hn := (List.forall_mem_append.mp hnames).2
  rw [toList_text_here_append hnames hne (by simp), toList_text_here hn (by simp)]
  simp

/-- At a slash the text of names is cut into texts of names. -/
lemma exists_of_text_here_eq {u v : List Char} (hnames : ∀ n ∈ names, IsName n) (hne : names ≠ [])
    (h : (Path.text ⟨.here, names⟩).toList = u ++ '/' :: v) :
    ∃ before after, names = before ++ after ∧ before ≠ [] ∧ after ≠ [] ∧
      u = (Path.text ⟨.here, before⟩).toList ∧ v = (Path.text ⟨.here, after⟩).toList := by
  have hcut := splitOn_text_here hnames hne
  rw [h, Text.splitOn_append_sep] at hcut
  obtain ⟨before, after, rfl, hbefore, hafter⟩ := List.map_eq_append_iff.mp hcut.symm
  have hpart : ∀ {l part}, (∀ n ∈ part, IsName n) → part.map String.toList = Text.splitOn '/' l →
      part ≠ [] ∧ l = (Path.text ⟨.here, part⟩).toList := by
    intro l part hnames hpart
    have hne : part ≠ [] := by
      rintro rfl
      exact Text.splitOn_ne_nil _ _ hpart.symm
    rw [toList_text_here hnames hne, hpart, Text.splitOn_eq, List.intercalate_splitOn]
    exact ⟨hne, rfl⟩
  obtain ⟨hb, ha⟩ := List.forall_mem_append.mp hnames
  obtain ⟨hbne, hu⟩ := hpart hb hbefore
  obtain ⟨hane, hv⟩ := hpart ha hafter
  exact ⟨before, after, rfl, hbne, hane, hu, hv⟩

/-- A text without a slash is the text of one name. -/
lemma eq_singleton_of_text_here_eq (hnames : ∀ n ∈ names, IsName n) (hne : names ≠ [])
    (hn : '/' ∉ n.toList) (h : (Path.text ⟨.here, names⟩).toList = n.toList) : names = [n] := by
  have hcut := splitOn_text_here hnames hne
  rw [h, Text.splitOn_of_not_mem hn] at hcut
  exact List.map_injective_iff.mpr (fun _ _ => String.toList_injective) hcut.symm

end Path

end Sieve.Files
