/-!
# Object keys

Objects of one kind are told apart by namespace and name, and are listed in that order.
-/

namespace FleetOperator

structure ObjectKey where
  ns : String
  name : String
deriving DecidableEq, Repr, Inhabited

namespace ObjectKey

instance : Ord ObjectKey where
  compare a b := (compare a.ns b.ns).then (compare a.name b.name)

theorem compare_def (a b : ObjectKey) :
    compare a b = (compare a.ns b.ns).then (compare a.name b.name) := rfl

instance : Std.TransOrd ObjectKey :=
  inferInstanceAs (Std.TransCmp (compareLex (compareOn ObjectKey.ns) (compareOn ObjectKey.name)))

instance : Std.LawfulEqOrd ObjectKey where
  compare_self := by
    intro a
    exact Std.ReflCmp.compare_self
  eq_of_compare := by
    intro a b h
    rw [compare_def, Ordering.then_eq_eq] at h
    obtain ⟨hns, hname⟩ := h
    cases a
    cases b
    congr
    · exact Std.LawfulEqCmp.eq_of_compare hns
    · exact Std.LawfulEqCmp.eq_of_compare hname

end ObjectKey

end FleetOperator
