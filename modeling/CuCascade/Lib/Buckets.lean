import Mathlib.Data.List.Basic
import Mathlib.Algebra.BigOperators.Group.List.Basic
import Mathlib.Algebra.Ring.Nat

/-!
# Lists in numbered buckets

A list of lists read as a family of buckets, empty beyond its end. The lemmas
say what growing the family and exchanging one bucket do to the other buckets
and to all that is stored.
-/

namespace Buckets

variable {β : Type*} {buckets : List (List β)} {xs ys : List β} {i j n : Nat}

/-- The bucket at an index. -/
def bucket (buckets : List (List β)) (i : Nat) : List β := (buckets[i]?).getD []

/-- The family with empty buckets up to `n`. -/
def grow (buckets : List (List β)) (n : Nat) : List (List β) :=
  buckets ++ List.replicate (n - buckets.length) []

theorem bucket_of_getElem? (h : buckets[i]? = some xs) : bucket buckets i = xs := by
  rw [bucket, h, Option.getD_some]

theorem bucket_grow (i n : Nat) : bucket (grow buckets n) i = bucket buckets i := by
  rw [bucket, bucket, grow, List.getElem?_append]
  split
  · rfl
  · rename_i hlt
    rw [List.getElem?_eq_none_iff.mpr (Nat.le_of_not_lt hlt), List.getElem?_replicate]
    split <;> rfl

theorem flatten_grow (n : Nat) : (grow buckets n).flatten = buckets.flatten := by
  rw [grow, List.flatten_append, List.flatten_replicate_nil, List.append_nil]

theorem length_grow : (grow buckets n).length = max buckets.length n := by
  rw [grow, List.length_append, List.length_replicate]
  omega

theorem bucket_set_self (h : i < buckets.length) :
    bucket (buckets.set i ys) i = ys := by
  rw [bucket, List.getElem?_set_self h, Option.getD_some]

theorem bucket_set_ne (h : j ≠ i) :
    bucket (buckets.set i ys) j = bucket buckets j := by
  rw [bucket, bucket, List.getElem?_set_ne (Ne.symm h)]

/-- Exchanging a bucket exchanges its contents. -/
theorem flatten_set (ys : List β) (h : buckets[i]? = some xs) :
    ((buckets.set i ys).flatten ++ xs).Perm (buckets.flatten ++ ys) := by
  induction buckets generalizing i with
  | nil => cases h
  | cons b buckets ih =>
      cases i with
      | zero =>
          cases h
          rw [List.set_cons_zero, List.flatten_cons, List.flatten_cons,
            List.append_assoc, List.append_assoc]
          exact (List.perm_append_comm_assoc ys buckets.flatten xs).trans
            ((List.Perm.append_left _ List.perm_append_comm).trans
              (List.perm_append_comm_assoc buckets.flatten xs ys))
      | succ i =>
          rw [List.set_cons_succ, List.flatten_cons, List.flatten_cons,
            List.append_assoc, List.append_assoc]
          exact (ih h).append_left b

/-- One more at the end of a bucket, which is made if it is not there. -/
def push (buckets : List (List β)) (i : Nat) (x : β) : List (List β) :=
  (grow buckets (i + 1)).set i (bucket buckets i ++ [x])

theorem lt_length_grow : i < (grow buckets (i + 1)).length := by
  rw [length_grow]
  omega

theorem getElem?_grow : (grow buckets (i + 1))[i]? = some (bucket buckets i) := by
  rw [← bucket_grow i (i + 1), bucket, List.getElem?_eq_getElem lt_length_grow,
    Option.getD_some]

theorem length_push {x : β} :
    (push buckets i x).length = max buckets.length (i + 1) := by
  rw [push, List.length_set, length_grow]

theorem bucket_push_self {x : β} :
    bucket (push buckets i x) i = bucket buckets i ++ [x] :=
  bucket_set_self lt_length_grow

theorem bucket_push_ne {x : β} (h : j ≠ i) :
    bucket (push buckets i x) j = bucket buckets j := by
  rw [push, bucket_set_ne h, bucket_grow]

theorem mem_bucket_push {x y : β} :
    y ∈ bucket (push buckets i x) j ↔ y ∈ bucket buckets j ∨ i = j ∧ x = y := by
  by_cases h : j = i
  · subst h
    rw [bucket_push_self, List.mem_append, List.mem_singleton]
    exact or_congr_right ⟨fun h => ⟨rfl, h.symm⟩, fun h => h.2.symm⟩
  · rw [bucket_push_ne h]
    exact ⟨.inl, fun h' => h'.elim id fun h' => absurd h'.1.symm h⟩

theorem flatten_push {x : β} :
    (push buckets i x).flatten.Perm (x :: buckets.flatten) := by
  have hentries : (grow buckets (i + 1))[i]? = some (bucket buckets i) :=
    getElem?_grow
  have hset := flatten_set (bucket buckets i ++ [x]) hentries
  rw [flatten_grow] at hset
  have hright : (buckets.flatten ++ (bucket buckets i ++ [x])).Perm
      ((x :: buckets.flatten) ++ bucket buckets i) := by
    rw [← List.append_assoc]
    exact List.perm_append_singleton x (buckets.flatten ++ bucket buckets i)
  exact (List.perm_append_right_iff _).mp (hset.trans hright)

/-- What is stored, counted bucket by bucket. -/
theorem length_flatten_eq :
    buckets.flatten.length =
      ((List.range buckets.length).map fun i => (bucket buckets i).length).sum := by
  rw [List.length_flatten]
  congr 1
  apply List.ext_getElem
  · simp
  · intro i h _
    rw [List.length_map] at h
    simp [bucket, List.getElem?_eq_getElem h]

end Buckets
