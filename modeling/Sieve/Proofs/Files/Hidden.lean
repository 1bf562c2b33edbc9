import Sieve.Files.Content
import Sieve.Log.Journal
import Sieve.Proofs.Files.Discovery
import Sieve.Proofs.Files.Path

/-!
Trees whose files are hidden.

To hide files is to take them for empty. What a search finds is the same whatever is hidden, and so
is the text of a file that is not hidden. Files that are written stay hidden or not as they were.
So runs on two trees that are the same but for what is hidden can be compared.
-/

namespace Sieve.Files

/-- Which places are hidden, by the names that lead to them. -/
abbrev Places := List String → Bool

namespace Places

/-- The same places seen from another. -/
def below (hidden : Places) (at_ : List String) : Places := fun names => hidden (at_ ++ names)

variable {hidden : Places}

@[simp] lemma below_below {at_ names : List String} :
    (hidden.below at_).below names = hidden.below (at_ ++ names) := by
  funext l
  simp [below]

lemma below_apply_nil {at_ : List String} : hidden.below at_ [] = hidden at_ := by
  simp [below]

end Places

namespace Tree

variable {hidden : Places} {t t' : Tree} {cs ds : List (String × Tree)} {name text : String}
  {names at_ : List String} {base p : Path} {bytes : List UInt8}

mutual

/-- The tree with the hidden files empty. -/
def without (hidden : Places) : Tree → Tree
  | file bytes => file (if hidden [] then [] else bytes)
  | dir cs => dir (withoutAll hidden cs)

def withoutAll (hidden : Places) : List (String × Tree) → List (String × Tree)
  | [] => []
  | (name, t) :: cs => (name, t.without (hidden.below [name])) :: withoutAll hidden cs

end

@[simp] lemma isDir_without : (t.without hidden).isDir = t.isDir := by
  cases t <;> rfl

lemma children_without : (t.without hidden).children = withoutAll hidden t.children := by
  cases t <;> rfl

lemma withoutAll_eq_map :
    withoutAll hidden cs = cs.map fun c => (c.1, c.2.without (hidden.below [c.1])) := by
  induction cs with
  | nil => rfl
  | cons c cs ih => rw [withoutAll, ih]; rfl

lemma names_withoutAll : (withoutAll hidden cs).map (·.1) = cs.map (·.1) := by
  simp [withoutAll_eq_map, Function.comp_def]

lemma lookup_withoutAll :
    (withoutAll hidden cs).lookup name =
      (cs.lookup name).map (without (hidden.below [name])) := by
  induction cs with
  | nil => rfl
  | cons c cs ih =>
    obtain ⟨n, t⟩ := c
    rw [withoutAll, List.lookup_cons, List.lookup_cons, ih]
    by_cases hn : name = n
    · subst hn
      simp
    · simp [beq_false_of_ne hn]

/-! ### What paths lead to -/

lemma get?_without :
    (t.without hidden).get? names = (t.get? names).map (without (hidden.below names)) := by
  induction names generalizing t hidden with
  | nil => rfl
  | cons name names ih =>
    rw [get?, get?, children_without, lookup_withoutAll]
    rcases t.children.lookup name with _ | c
    · rfl
    · exact ih.trans (by rw [Places.below_below]; rfl)

/-- The names that lead to the end of a path, without dots. -/
def placeOf (at_ names : List String) : List String := names.foldl Path.stepTo at_

lemma follow_without :
    (t.without hidden).follow at_ names =
      (t.follow at_ names).map (without (hidden.below (placeOf at_ names))) := by
  induction names generalizing at_ with
  | nil =>
    rw [follow, follow, get?_without]
    rcases t.get? at_ with _ | n <;> rfl
  | cons name names ih =>
    rw [follow, follow, get?_without]
    rcases t.get? at_ with _ | n
    · rfl
    · cases n with
      | file bytes => rfl
      | dir cs => exact ih

lemma find_without :
    (t.without hidden).find p =
      (t.find p).map (without (hidden.below (placeOf [] p.parts))) :=
  follow_without

lemma find?_without :
    (t.without hidden).find? p =
      (t.find? p).map (without (hidden.below (placeOf [] p.parts))) := by
  rw [find?, find?, find_without]
  rcases t.find p with f | n <;> rfl

@[simp] lemma isSome_find?_without : ((t.without hidden).find? p).isSome = (t.find? p).isSome := by
  rw [find?_without, Option.isSome_map]

@[simp] lemma isFileAt_without : (t.without hidden).isFileAt p = t.isFileAt p := by
  unfold isFileAt
  rw [find_without]
  rcases t.find p with f | n
  · rfl
  · cases n <;> rfl

@[simp] lemma isDirAt_without : (t.without hidden).isDirAt p = t.isDirAt p := by
  unfold isDirAt
  rw [find_without]
  rcases t.find p with f | n
  · rfl
  · cases n <;> rfl

/-- **A file that is not hidden** is read as it is. -/
theorem read_without (h : hidden (placeOf [] p.parts) = false) :
    (t.without hidden).read p = t.read p := by
  unfold read
  rw [find_without]
  rcases t.find p with f | n
  · rfl
  · cases n with
    | dir cs => rfl
    | file bytes => simp [Except.map, without, Places.below_apply_nil, h]

lemma textAt_without (h : hidden (base.resolve p).parts = false) :
    (t.without hidden).textAt base p = t.textAt base p := by
  unfold textAt bytesAt
  rw [read_without h]

/-- Trees that are the same but for what is hidden have the same text where nothing is. -/
lemma textAt_congr (ht : t.without hidden = t'.without hidden)
    (h : hidden (base.resolve p).parts = false) : t.textAt base p = t'.textAt base p := by
  rw [← textAt_without h, ht, textAt_without h]

/-! ### Trees that are written to -/

lemma withoutAll_filter {q : String → Bool} :
    withoutAll hidden (cs.filter fun c => q c.1) = (withoutAll hidden cs).filter fun c => q c.1 := by
  simp [withoutAll_eq_map, List.filter_map, Function.comp_def]

lemma withoutAll_append : withoutAll hidden (cs ++ ds) = withoutAll hidden cs ++ withoutAll hidden ds := by
  simp [withoutAll_eq_map]

/-- A file put into the tree is hidden if its place is. -/
lemma without_put :
    (t.put names (file bytes)).without hidden =
      (t.without hidden).put names ((file bytes).without (hidden.below names)) := by
  induction names generalizing t hidden with
  | nil => rfl
  | cons name names ih =>
    have hchild : (((t.children.lookup name).getD (dir [])).put names (file bytes)).without
        (hidden.below [name]) = (((t.without hidden).children.lookup name).getD (dir [])).put names
          ((file bytes).without (hidden.below (name :: names))) := by
      rw [ih, children_without, lookup_withoutAll, Places.below_below]
      rcases t.children.lookup name with _ | c <;> rfl
    have hfilter : withoutAll hidden (t.children.filter (·.1 != name)) =
        (t.without hidden).children.filter (·.1 != name) := by
      rw [children_without]
      exact withoutAll_filter (q := (· != name))
    simp only [put]
    rw [← hchild, ← hfilter]
    exact congrArg dir withoutAll_append

end Tree

/-! ### What is found -/

variable {hidden : Places} {t t' : Tree} {folder base : Path} {at_ : List String}
  {places : List (List String)} {segments : List Segment} {isLast : Bool} {g : Glob} {s : Segment}

namespace Glob

mutual

lemma visibleBelow_without : ∀ (t : Tree) (hidden : Places),
    visibleBelow (t.without hidden) = visibleBelow t
  | .file _, _ => rfl
  | .dir cs, hidden => visibleIn_withoutAll cs hidden

lemma visibleIn_withoutAll : ∀ (cs : List (String × Tree)) (hidden : Places),
    visibleIn (Tree.withoutAll hidden cs) = visibleIn cs
  | [], _ => rfl
  | (name, t) :: cs, hidden => by
    rw [Tree.withoutAll, visibleIn, visibleIn, visibleBelow_without t, visibleIn_withoutAll cs]

end

lemma expand_without : expand (t.without hidden) base isLast at_ s = expand t base isLast at_ s := by
  have hnames : ∀ p : Path,
      (((t.without hidden).find? p).map fun d => d.children.map (·.1)).getD [] =
        ((t.find? p).map fun d => d.children.map (·.1)).getD [] := by
    intro p
    rw [Tree.find?_without]
    rcases t.find? p with _ | n
    · rfl
    · simp [Tree.children_without, Tree.names_withoutAll]
  have hbelow : ∀ p : Path, (((t.without hidden).find? p).map visibleBelow).getD [] =
      ((t.find? p).map visibleBelow).getD [] := by
    intro p
    rw [Tree.find?_without]
    rcases t.find? p with _ | n
    · rfl
    · simp [visibleBelow_without]
  cases s <;> simp only [expand, hnames, hbelow, Tree.isSome_find?_without, Tree.isDirAt_without]

lemma expandAll_without :
    expandAll (t.without hidden) base places segments = expandAll t base places segments := by
  induction segments generalizing places with
  | nil => rfl
  | cons s rest ih => simp only [expandAll, expand_without, ih]

lemma files_without : g.files (t.without hidden) folder = g.files t folder := by
  simp only [files, Glob.places, expandAll_without, Tree.isSome_find?_without]
  exact List.filter_congr fun p _ => Tree.isFileAt_without

end Glob

/-- **A search** asks nothing of what files hold. -/
theorem Search.run_without {search : Search} : search.run (t.without hidden) = search.run t := by
  simp only [Search.run, Glob.files_without]

lemma Search.run_congr {search : Search} (ht : t.without hidden = t'.without hidden) :
    search.run t = search.run t' := by
  rw [← Search.run_without, ht, Search.run_without]

end Sieve.Files

/-! ### Files that events are written to -/

namespace Sieve.Log

open Files

variable {hidden : Places} {t t' : Tree} {p : Path} {text : String}

/-- To open a file asks nothing of what files hold. -/
lemma openAtEnd_without :
    openAtEnd (t.without hidden) p = (openAtEnd t p).map (Tree.without hidden) := by
  unfold openAtEnd
  rw [Tree.find_without, Tree.find_without]
  split_ifs
  · rfl
  · rcases t.find p with f | n
    · rcases t.find p.parent with f | n
      · rfl
      · cases n with
        | file bytes => rfl
        | dir cs => simp [Except.map, Tree.without, Tree.without_put]
    · cases n <;> rfl

lemma openAtEnd_congr (ht : t.without hidden = t'.without hidden) :
    (openAtEnd t p).map (Tree.without hidden) = (openAtEnd t' p).map (Tree.without hidden) := by
  rw [← openAtEnd_without, ht, openAtEnd_without]

/-- What is written at the end of a file is hidden if the file is. -/
lemma appendTo_congr (ht : t.without hidden = t'.without hidden)
    (hdots : ∀ n ∈ p.parts, n ≠ "." ∧ n ≠ "..") :
    (appendTo t text p).without hidden = (appendTo t' text p).without hidden := by
  have hplace : Tree.placeOf [] p.parts = p.parts := Path.foldl_stepTo hdots
  have hfind := congrArg (Tree.find · p) ht
  simp only [Tree.find_without, hplace] at hfind
  unfold appendTo Tree.read
  rcases hf : t.find p with f | n <;> rcases hf' : t'.find p with f' | n' <;>
    simp only [hf, hf', Except.map, Except.error.injEq, Except.ok.injEq, reduceCtorEq] at hfind
  · exact ht
  · cases n <;> cases n' <;> simp only [Tree.without, Tree.file.injEq, reduceCtorEq] at hfind
    · rename_i bytes bytes'
      dsimp only
      rw [Tree.without_put, Tree.without_put, ht]
      congr 1
      simp only [Tree.without, Places.below_apply_nil] at hfind ⊢
      split_ifs at hfind ⊢ with h
      · rfl
      · rw [hfind]
    · exact ht

end Sieve.Log
