import Sieve.Log.Correlation
import Mathlib.Tactic.Common

/-!
Runs that report: the value of a chain of them, and what is reported on the way.
-/

namespace Sieve.Log

variable {α β : Type}

namespace Logged

variable {x : Logged α} {f : α → Logged β} {a : α}

@[simp] lemma value_bind : (x >>= f).value = (f x.value).value := rfl

@[simp] lemma value_pure : (Pure.pure a : Logged α).value = a := rfl

@[simp] lemma records_bind : (x >>= f).records = x.records ++ (f x.value).records := rfl

@[simp] lemma records_pure : (Pure.pure a : Logged α).records = [] := rfl

@[simp] lemma value_map {g : α → β} : (x.map g).value = g x.value := rfl

end Logged

/-- A context of its own changes nothing of the value. -/
@[simp] lemma Correlation.value_within {c : Correlation} {id : String} {x : Logged α} :
    (c.within id x).1.value = x.value := rfl

end Sieve.Log
