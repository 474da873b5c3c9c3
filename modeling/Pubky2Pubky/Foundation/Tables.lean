import Std.Data.ExtTreeMap
import Mathlib.Data.List.Perm.Subperm

/-!
# Counting the entries of a table

An entry that is inserted is counted at most once, and one that is erased lowers no
count below what the others make.
-/

namespace Pubky2Pubky
namespace Foundation

universe u v

variable {α : Type u} {β : Type v} {cmp : α -> α -> Ordering}
variable [Std.TransCmp cmp]

theorem toList_nodup (table : Std.ExtTreeMap α β cmp) : table.toList.Nodup := by
  refine table.distinct_keys_toList.imp ?_
  rintro entry other hne rfl
  exact hne Std.ReflCmp.compare_self

variable [Std.LawfulEqCmp cmp]

theorem countP_toList_insert_le (table : Std.ExtTreeMap α β cmp) (key : α) (value : β)
    (p : α × β -> Bool) :
    (table.insert key value).toList.countP p ≤
      table.toList.countP p + if p (key, value) then 1 else 0 := by
  have hsubset : (table.insert key value).toList ⊆ (key, value) :: table.toList := by
    rintro ⟨other, found⟩ hmem
    rw [Std.ExtTreeMap.mem_toList_iff_getElem?_eq_some,
      Std.ExtTreeMap.getElem?_insert] at hmem
    split at hmem
    · next heq =>
        rw [Std.LawfulEqCmp.eq_of_compare heq]
        cases hmem
        exact List.mem_cons_self
    · apply List.mem_cons_of_mem
      rw [Std.ExtTreeMap.mem_toList_iff_getElem?_eq_some]
      exact hmem
  have hcount := ((toList_nodup _).subperm hsubset).countP_le p
  rw [List.countP_cons] at hcount
  exact hcount

theorem countP_toList_erase_le (table : Std.ExtTreeMap α β cmp) (key : α)
    (p : α × β -> Bool) :
    (table.erase key).toList.countP p ≤ table.toList.countP p := by
  refine ((toList_nodup _).subperm ?_).countP_le p
  rintro ⟨other, found⟩ hmem
  rw [Std.ExtTreeMap.mem_toList_iff_getElem?_eq_some,
    Std.ExtTreeMap.getElem?_erase] at hmem
  split at hmem
  · cases hmem
  · rw [Std.ExtTreeMap.mem_toList_iff_getElem?_eq_some]
    exact hmem

end Foundation
end Pubky2Pubky
