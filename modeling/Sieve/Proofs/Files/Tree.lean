import Sieve.Files.Tree
import Sieve.Proofs.Files.Path

/-!
What paths without dots lead to.

Such a path leads down a tree by its names. So where a tree holds names that files may have, each
path to a file in it is made of such names.
-/

namespace Sieve.Files.Tree

variable {t d : Tree} {cs : List (String × Tree)} {names at_ : List String} {n : String} {p : Path}

mutual

/-- All that lies in the tree has a name that files may have. -/
def isNamed : Tree → Bool
  | file _ => true
  | dir cs => areNamed cs

def areNamed : List (String × Tree) → Bool
  | [] => true
  | (n, t) :: cs => decide (IsName n) && t.isNamed && areNamed cs

end

lemma isNamed_of_lookup (hcs : areNamed cs = true) (h : cs.lookup n = some d) :
    IsName n ∧ d.isNamed = true := by
  induction cs with
  | nil => cases h
  | cons c cs ih =>
    obtain ⟨name, c⟩ := c
    simp only [areNamed, Bool.and_eq_true, decide_eq_true_eq] at hcs
    rw [List.lookup_cons] at h
    split at h
    · rename_i hname
      cases h
      rw [beq_iff_eq.mp hname]
      exact hcs.1
    · exact ih hcs.2 h

lemma names_of_get? (ht : t.isNamed = true) (h : t.get? names = some d) :
    ∀ n ∈ names, IsName n := by
  induction names generalizing t with
  | nil => simp
  | cons name names ih =>
    rw [get?] at h
    rcases hlookup : t.children.lookup name with _ | c <;> rw [hlookup] at h
    · cases h
    · cases t with
      | file bytes => cases hlookup
      | dir cs =>
        rw [isNamed] at ht
        obtain ⟨hname, hc⟩ := isNamed_of_lookup ht hlookup
        exact List.forall_mem_cons.mpr ⟨hname, ih hc h⟩

lemma get?_of_follow (hdots : ∀ n ∈ names, n ≠ "." ∧ n ≠ "..")
    (h : t.follow at_ names = .ok d) : t.get? (at_ ++ names) = some d := by
  induction names generalizing at_ with
  | nil =>
    rw [follow] at h
    rw [List.append_nil]
    rcases hget : t.get? at_ with _ | n <;> rw [hget] at h <;> cases h
    rfl
  | cons name names ih =>
    obtain ⟨hname, hnames⟩ := List.forall_mem_cons.mp hdots
    rw [follow] at h
    rcases hget : t.get? at_ with _ | n <;> rw [hget] at h
    · cases h
    · cases n with
      | file bytes => cases h
      | dir cs =>
        have hrest := ih hnames h
        rwa [Path.stepTo, if_neg hname.1, if_neg hname.2, List.append_assoc] at hrest

lemma isFileAt_iff : t.isFileAt p = true ↔ ∃ bytes, t.find p = .ok (file bytes) := by
  unfold isFileAt
  rcases t.find p with f | d
  · simp
  · cases d <;> simp

/-- **A file is reached by names** that files may have. -/
theorem isProper_of_isFileAt (hdir : t.isDir = true) (ht : t.isNamed = true)
    (hroot : p.anchor = .root) (hdots : ∀ n ∈ p.parts, n ≠ "." ∧ n ≠ "..")
    (h : t.isFileAt p = true) : p.IsProper := by
  obtain ⟨bytes, hfind⟩ := isFileAt_iff.mp h
  have hget : t.get? p.parts = some (file bytes) := get?_of_follow hdots hfind
  refine ⟨hroot, fun hnil => ?_, names_of_get? ht hget⟩
  rw [hnil, get?] at hget
  cases hget
  cases hdir

end Sieve.Files.Tree
