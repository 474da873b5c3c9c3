import Mathlib.Data.List.Basic

/-!
# Replaced files

A new file takes the place of an old one by a rename. Until the directory is
synced, a crash may bring back any file that was replaced since the last sync.
-/

namespace Pubky2Pubky
namespace Foundation

/-- The file at a path, and those a crash may bring back, the last one first. -/
structure Replaced (C : Type) where
  current : C
  older : List C

namespace Replaced

variable {C : Type}

def survivors (path : Replaced C) : List C := path.current :: path.older

def rename (path : Replaced C) (file : C) : Replaced C :=
  { current := file, older := path.survivors }

def sync (path : Replaced C) : Replaced C := { path with older := [] }

/-- A crash leaves the survivor at an index, and nothing to bring back. -/
def crash (path : Replaced C) (index : Nat) : Option (Replaced C) :=
  path.survivors[index]?.map fun file => { current := file, older := [] }

/-- The file that the last sync or crash has left for good. -/
def settled (path : Replaced C) : C := path.older.getLastD path.current

@[simp] theorem survivors_rename (path : Replaced C) (file : C) :
    (path.rename file).survivors = file :: path.survivors := rfl

@[simp] theorem survivors_sync (path : Replaced C) :
    path.sync.survivors = [path.current] := rfl

theorem settled_rename (path : Replaced C) (file : C) :
    (path.rename file).settled = path.settled := by
  unfold settled rename survivors
  rw [List.getLastD_cons]

theorem settled_mem (path : Replaced C) : path.settled ∈ path.survivors := by
  rcases path with ⟨current, older⟩
  unfold settled survivors
  dsimp only
  cases older with
  | nil => exact List.mem_cons_self
  | cons first rest =>
      rw [List.getLastD_cons]
      apply List.mem_cons_of_mem
      rw [List.getLastD_eq_getLast?]
      cases hlast : rest.getLast? with
      | none => exact List.mem_cons_self
      | some last =>
          exact List.mem_cons_of_mem first (List.mem_of_getLast? hlast)

theorem crash_eq_some {path after : Replaced C} {index : Nat}
    (h : path.crash index = some after) :
    after.current ∈ path.survivors ∧ after.older = [] := by
  unfold crash at h
  rcases Option.map_eq_some_iff.mp h with ⟨file, hfile, rfl⟩
  exact ⟨List.mem_of_getElem? hfile, rfl⟩

/-!
# Related survivors

A file stands in a relation to every file that has replaced it since.
-/

variable {R : C -> C -> Prop} {path : Replaced C}

def Ordered (R : C -> C -> Prop) (path : Replaced C) : Prop :=
  path.survivors.Pairwise fun later earlier => R earlier later

theorem ordered_of_older_nil (h : path.older = []) : path.Ordered R := by
  unfold Ordered survivors
  rw [h]
  exact List.pairwise_singleton _ _

theorem Ordered.rename (h : path.Ordered R)
    (htrans : forall a b c, R a b -> R b c -> R a c) {file : C}
    (hfile : R path.current file) : (path.rename file).Ordered R := by
  unfold Ordered
  rw [survivors_rename, List.pairwise_cons]
  refine ⟨?_, h⟩
  intro earlier hearlier
  rcases List.mem_cons.mp hearlier with heq | holder
  · rw [heq]
    exact hfile
  · exact htrans earlier path.current file
      (List.rel_of_pairwise_cons h holder) hfile

/-- Whatever a crash brings back comes after the settled file. -/
theorem Ordered.settled_rel (h : path.Ordered R) (hrefl : forall a, R a a)
    {file : C} (hfile : file ∈ path.survivors) : R path.settled file := by
  rcases path with ⟨current, older⟩
  unfold Ordered survivors at h
  unfold survivors at hfile
  dsimp only at h hfile
  unfold settled
  dsimp only
  induction older generalizing current with
  | nil =>
      rw [List.mem_singleton.mp hfile]
      exact hrefl current
  | cons first rest ih =>
      rw [List.getLastD_cons]
      rcases List.mem_cons.mp hfile with heq | hrest
      · subst heq
        have hmem : rest.getLastD first ∈ first :: rest :=
          settled_mem { current := first, older := rest }
        exact List.rel_of_pairwise_cons h hmem
      · exact ih first (List.Pairwise.of_cons h) hrest

end Replaced

end Foundation
end Pubky2Pubky
