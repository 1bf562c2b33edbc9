import Sieve.Files.Discovery
import Sieve.Proofs.Except
import Mathlib.Data.List.Sort
import Mathlib.Data.List.TakeWhile
import Mathlib.Data.String.Basic

/-!
What a search finds.

A search finds the files that some pattern names and no other pattern leaves out, in ascending order
and each once. There is one such list only, so a search is known by which files it finds.
-/

namespace Sieve.Files

variable {p q : Path} {l l' : List Path} {s : Search} {t : Tree} {d : Discovery}
  {excludes : List Exclude}

lemma Anchor.text_injective : Function.Injective Anchor.text := by
  intro a b h
  cases a <;> cases b <;> first | rfl | exact absurd h (by decide)

namespace Path

lemma key_injective : Function.Injective key := by
  rintro ⟨a, parts⟩ ⟨b, parts'⟩ h
  obtain ⟨hanchor, hparts⟩ := List.cons_eq_cons.mp h
  exact congrArg₂ Path.mk (Anchor.text_injective hanchor) hparts

lemma le_iff : p.le q = true ↔ p.key ≤ q.key := by
  simp [le]

lemma isTrans_le (p q r : Path) (hpq : p.le q = true) (hqr : q.le r = true) : p.le r = true :=
  le_iff.mpr ((le_iff.mp hpq).trans (le_iff.mp hqr))

lemma isTotal_le (p q : Path) : (p.le q || q.le p) = true := by
  rw [Bool.or_eq_true, le_iff, le_iff]
  exact le_total _ _

end Path

/-- Each path is before those behind it. -/
def IsAscending (l : List Path) : Prop := l.Pairwise fun p q => p.key < q.key

lemma IsAscending.nodup (h : IsAscending l) : l.Nodup :=
  List.Pairwise.imp (fun hlt heq => absurd (heq ▸ hlt) (lt_irrefl _)) h

/-- Paths in ascending order are known by which they are. -/
theorem IsAscending.eq_of_mem_iff (h : IsAscending l) (h' : IsAscending l')
    (hmem : ∀ p, p ∈ l ↔ p ∈ l') : l = l' :=
  have : Std.Irrefl fun p q : Path => p.key < q.key := ⟨fun _ => lt_irrefl _⟩
  List.Pairwise.eq_of_mem_iff h h' hmem

namespace Search

lemma mem_sorted_iff : p ∈ sorted l ↔ p ∈ l := by
  rw [sorted, List.mem_mergeSort, List.mem_eraseDups]

lemma nodup_eraseDups (l : List Path) : l.eraseDups.Nodup := by
  induction hn : l.length using Nat.strong_induction_on generalizing l with
  | _ n ih =>
    cases l with
    | nil => exact List.nodup_nil
    | cons p l =>
      rw [List.eraseDups_cons, List.nodup_cons]
      refine ⟨by simp [List.mem_eraseDups], ih _ ?_ _ rfl⟩
      rw [← hn]
      exact Nat.lt_succ_of_le (List.length_filter_le _ _)

lemma isAscending_sorted : IsAscending (sorted l) := by
  have hle : (sorted l).Pairwise fun p q => p.le q = true :=
    List.pairwise_mergeSort Path.isTrans_le Path.isTotal_le _
  have hne : (sorted l).Nodup := (List.mergeSort_perm _ _).nodup_iff.mpr (nodup_eraseDups l)
  refine (hle.and hne).imp fun h => lt_of_le_of_ne (Path.le_iff.mp h.1) fun hkey => ?_
  exact h.2 (Path.key_injective hkey)

lemma isExcluded_nil {folder : Path} : isExcluded folder [] p = false := by
  unfold isExcluded
  split <;> rfl

/-- The files that some pattern names. -/
def named (s : Search) (t : Tree) : List Path :=
  s.patterns.flatMap fun p => (Glob.ofText p).files t s.folder

lemma run_eq_ok_iff : s.run t = .ok d ↔
    ∃ excludes, s.excluded? = .ok excludes ∧
      d = ⟨(sorted (s.named t)).filter fun p => !isExcluded s.folder excludes p,
        (sorted (s.named t)).filter (isExcluded s.folder excludes)⟩ := by
  unfold run
  rcases s.excluded? with e | excludes
  · simp [bind, Except.bind]
  · simp only [List.partition_eq_filter_filter, Except.ok.injEq, exists_eq_left']
    exact ⟨fun h => (Except.ok.inj h).symm, fun h => congrArg Except.ok h.symm⟩

/-- **A search finds** what is named and not left out. -/
theorem files_eq_iff (h : s.excluded? = .ok excludes) :
    (s.run t).map Discovery.files = .ok l ↔
      IsAscending l ∧ ∀ p, p ∈ l ↔ p ∈ s.named t ∧ isExcluded s.folder excludes p = false := by
  have hfound : ∀ p, p ∈ (sorted (s.named t)).filter (fun p => !isExcluded s.folder excludes p) ↔
      p ∈ s.named t ∧ isExcluded s.folder excludes p = false := by
    intro p
    rw [List.mem_filter, mem_sorted_iff, Bool.not_eq_true']
  have hascending := List.Pairwise.filter (fun p => !isExcluded s.folder excludes p)
    (@isAscending_sorted (s.named t))
  simp only [map_eq_ok_iff, run_eq_ok_iff, h, Except.ok.injEq, exists_eq_left', exists_eq_left]
  constructor
  · rintro rfl
    exact ⟨hascending, hfound⟩
  · rintro ⟨hl, hmem⟩
    exact hl.eq_of_mem_iff hascending fun p => (hmem p).trans (hfound p).symm

/-- A search fails by a pattern of what is left out. -/
theorem exists_run_eq_error_iff : (∃ e, s.run t = .error e) ↔
    ∃ p ∈ s.excludes, ∃ q e, fromFolder? s.folder p = some q ∧
      Exclude.ofLine? ("/" ++ q) = .error e := by
  have hexcluded : (∃ e, s.run t = .error e) ↔ ∃ e, (s.excludes.filterMap
      (fromFolder? s.folder)).mapM (fun q => Exclude.ofLine? ("/" ++ q)) = .error e := by
    unfold run excluded?
    rcases (s.excludes.filterMap (fromFolder? s.folder)).mapM
      (fun q => Exclude.ofLine? ("/" ++ q)) with e | found <;>
        simp [bind, Except.bind, pure, Except.pure]
  rw [hexcluded, exists_mapM_eq_error_iff]
  constructor
  · rintro ⟨q, hq, e, he⟩
    obtain ⟨p, hp, hpq⟩ := List.mem_filterMap.mp hq
    exact ⟨p, hp, q, e, hpq, he⟩
  · rintro ⟨p, hp, q, e, hpq, he⟩
    exact ⟨q, List.mem_filterMap.mpr ⟨p, hp, hpq⟩, e, he⟩

/-! ### Null characters -/

/-- Nothing that the search follows holds a null character. -/
structure IsFreeOfNulls (s : Search) : Prop where
  folder : s.folder.holdsNull = false
  excludes : ∀ p ∈ s.excludes, isUnplaced p = false
  patterns : ∀ p ∈ s.patterns, isUnreachable p = false

instance (s : Search) : Decidable s.IsFreeOfNulls :=
  decidable_of_iff (s.folder.holdsNull = false ∧ (∀ p ∈ s.excludes, isUnplaced p = false) ∧
    ∀ p ∈ s.patterns, isUnreachable p = false)
    ⟨fun ⟨h, h', h''⟩ => ⟨h, h', h''⟩, fun h => ⟨h.folder, h.excludes, h.patterns⟩⟩

/-- Such a search is followed to its end. -/
lemma isFreeOfNulls_iff : s.IsFreeOfNulls ↔ s.folder.holdsNull = false ∧
    s.untilNull.excludes = s.excludes ∧ s.untilNull.patterns = s.patterns := by
  simp only [untilNull, List.takeWhile_eq_self_iff, Bool.not_eq_true']
  exact ⟨fun h => ⟨h.folder, h.excludes, h.patterns⟩, fun ⟨h, h', h''⟩ => ⟨h, h', h''⟩⟩

lemma IsFreeOfNulls.untilNull_eq (h : s.IsFreeOfNulls) : s.untilNull = s := by
  obtain ⟨-, hexcludes, hpatterns⟩ := isFreeOfNulls_iff.mp h
  exact congrArg₂ (fun patterns excludes => Search.mk patterns s.folder excludes) hpatterns
    hexcludes

end Search

end Sieve.Files
