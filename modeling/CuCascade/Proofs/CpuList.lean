import CuCascade.Memory.TopologyDiscovery

/-!
# Reading core lists

A core list is written as numbers and ranges with commas between them. Reading
cuts it at the commas, each token at its dash, and counts through each range in
an `int`. All of it undoes the writing, but for the loop over a range: it stops
when the counter has passed the end of the range, and nothing is past the
largest `int`.
-/

namespace CuCascade.Memory

open Text

/-- A core as a core list may name it: an `int` that is not negative. -/
abbrev CoreId := Fin (2 ^ 31)

/-- What stands between two commas. -/
inductive CpuItem where
  | core (c : CoreId)
  | range (first last : CoreId)
deriving DecidableEq, Repr

/-- The numbers from `i` to `last`, none if `last` is before `i`. -/
def coresFrom (i last : Int) : List Int :=
  (List.range (last + 1 - i).toNat).map fun k : Nat => i + k

namespace CpuItem

def render : CpuItem → List Char
  | core c => Nat.toDigits 10 c
  | range first last => Nat.toDigits 10 first ++ '-' :: Nat.toDigits 10 last

def cores : CpuItem → List Int
  | core c => [c]
  | range first last => coresFrom first last

/-- The item is not a range up to the largest `int`. -/
def EndsBelowMax : CpuItem → Prop
  | core _ => True
  | range _ last => (last : Int) ≠ intMax

instance : DecidablePred EndsBelowMax
  | core _ => inferInstanceAs (Decidable True)
  | range _ last => inferInstanceAs (Decidable ((last : Int) ≠ intMax))

end CpuItem

/-- A core list as it is written. -/
def renderCpuList (items : List CpuItem) : List Char :=
  [','].intercalate (items.map CpuItem.render)

/-! ## The loop over a range -/

theorem coresFrom_cons {i last : Int} (h : i ≤ last) :
    coresFrom i last = i :: coresFrom (i + 1) last := by
  have hcount : (last + 1 - i).toNat = (last + 1 - (i + 1)).toNat + 1 := by omega
  rw [coresFrom, coresFrom, hcount, List.range_succ_eq_map, List.map_cons, List.map_map]
  congr 1
  · exact Int.add_zero i
  · refine List.map_congr_left fun k _ => ?_
    show i + ((k + 1 : Nat) : Int) = i + 1 + k
    omega

theorem coresFrom_nil {i last : Int} (h : last < i) : coresFrom i last = [] := by
  have hcount : (last + 1 - i).toNat = 0 := by omega
  rw [coresFrom, hcount]
  rfl

/-- Below the largest `int` the loop ends, having pushed the range. -/
theorem pushRange_of_lt {i last : Int} (cores : List Int) (hlast : last < intMax) :
    pushRange i last cores = .ok (cores ++ coresFrom i last) := by
  fun_induction pushRange i last cores with
  | case1 cores hle => omega
  | case2 i cores hle hne ih =>
      rw [ih, coresFrom_cons hle, List.append_assoc, List.singleton_append]
  | case3 i cores hlt => rw [coresFrom_nil (by omega), List.append_nil]

/-- At the largest `int` it does not end. -/
theorem pushRange_intMax {i last : Int} (cores : List Int) (hlast : last = intMax)
    (hi : i ≤ last) : pushRange i last cores = .error .intOverflow := by
  fun_induction pushRange i last cores with
  | case1 cores hle => rfl
  | case2 i cores hle hne ih => exact ih (by omega)
  | case3 i cores hlt => exact absurd hi hlt

/-! ## The tokens -/

section

variable {cores : List Int} {item : CpuItem}

theorem pushToken_core (c : CoreId) :
    pushToken cores (CpuItem.core c).render = .ok (cores ++ [(c : Int)]) := by
  have hdash : (Nat.toDigits 10 c).idxOf '-' = (Nat.toDigits 10 c).length :=
    List.idxOf_eq_length (notMem_toDigits rfl c)
  rw [pushToken, CpuItem.render, if_neg (not_not.mpr hdash), stoi_toDigits c.isLt]

theorem pushToken_range (first last : CoreId) :
    pushToken cores (CpuItem.range first last).render =
      pushRange first last cores := by
  have hdash := idxOf_append_cons (notMem_toDigits (c := '-') rfl first)
    (Nat.toDigits 10 last)
  have hshort : (Nat.toDigits 10 first).length ≠
      (Nat.toDigits 10 first ++ '-' :: Nat.toDigits 10 last).length := by
    simp
  rw [pushToken, CpuItem.render, hdash, if_pos hshort, List.take_left,
    ← List.drop_drop, List.drop_left, stoi_toDigits first.isLt]
  simp only [List.drop_one, List.tail_cons, stoi_toDigits last.isLt]

theorem pushToken_of_endsBelowMax (h : item.EndsBelowMax) :
    pushToken cores item.render = .ok (cores ++ item.cores) := by
  cases item with
  | core c => exact pushToken_core c
  | range first last =>
      have hlast := last.isLt
      rw [pushToken_range]
      refine pushRange_of_lt cores (lt_of_le_of_ne ?_ h)
      unfold intMax
      omega

theorem pushToken_of_not_endsBelowMax (h : ¬ item.EndsBelowMax) :
    pushToken cores item.render = .error .intOverflow := by
  cases item with
  | core c => exact absurd trivial h
  | range first last =>
      have hlast : (last : Int) = intMax := not_not.mp h
      have hfirst := first.isLt
      rw [pushToken_range]
      refine pushRange_intMax cores hlast ?_
      rw [hlast]
      unfold intMax
      omega

end

/-! ## The list -/

theorem CpuItem.render_ne_nil (item : CpuItem) : item.render ≠ [] := by
  cases item with
  | core c => exact Nat.toDigits_ne_nil
  | range first last => simp [render]

theorem CpuItem.comma_notMem_render (item : CpuItem) : ',' ∉ item.render := by
  cases item with
  | core c => exact notMem_toDigits rfl c
  | range first last =>
      have hfirst := notMem_toDigits (c := ',') rfl first
      have hlast := notMem_toDigits (c := ',') rfl last
      simp [render, hfirst, hlast]

theorem parseCpuList_renderCpuList (items : List CpuItem) :
    parseCpuList (renderCpuList items) =
      (items.map CpuItem.render).foldlM pushToken [] := by
  have htokens : getlines ',' (renderCpuList items) = items.map CpuItem.render := by
    refine getlines_intercalate ?_ ?_
    · intro token htoken
      obtain ⟨item, -, rfl⟩ := List.mem_map.mp htoken
      exact item.render_ne_nil
    · intro token htoken
      obtain ⟨item, -, rfl⟩ := List.mem_map.mp htoken
      exact item.comma_notMem_render
  unfold parseCpuList
  split
  · rename_i hempty
    rw [← htokens, hempty]
    rfl
  · rw [htokens]

/-- The tokens are read one after the other, up to the first range that ends
at the largest `int`. -/
theorem foldlM_pushToken (cores : List Int) (items : List CpuItem) :
    (items.map CpuItem.render).foldlM pushToken cores =
      if ∀ item ∈ items, item.EndsBelowMax then
        .ok (cores ++ items.flatMap CpuItem.cores)
      else .error .intOverflow := by
  induction items generalizing cores with
  | nil => simp; rfl
  | cons item items ih =>
      rw [List.map_cons, List.foldlM_cons]
      by_cases hitem : item.EndsBelowMax
      · rw [pushToken_of_endsBelowMax hitem]
        show (items.map CpuItem.render).foldlM pushToken (cores ++ item.cores) = _
        rw [ih]
        simp [hitem]
      · rw [pushToken_of_not_endsBelowMax hitem]
        simp [hitem]
        rfl

/-- Reading a core list gives its cores exactly if no range of it ends at the
largest `int`. -/
theorem parseCpuList_render_iff (items : List CpuItem) :
    parseCpuList (renderCpuList items) = .ok (items.flatMap CpuItem.cores) ↔
      ∀ item ∈ items, item.EndsBelowMax := by
  rw [parseCpuList_renderCpuList, foldlM_pushToken, List.nil_append]
  split
  · rename_i h
    exact iff_of_true rfl h
  · rename_i h
    exact iff_of_false (fun heq => by cases heq) h

/-- The range of the largest `int` alone. -/
def lastCore : CpuItem := .range ⟨2 ^ 31 - 1, by decide⟩ ⟨2 ^ 31 - 1, by decide⟩

theorem lastCore_overflows :
    parseCpuList (renderCpuList [lastCore]) ≠ .ok ([lastCore].flatMap CpuItem.cores) := by
  have hend : ¬ ∀ item ∈ [lastCore], item.EndsBelowMax := by decide
  rw [parseCpuList_renderCpuList, foldlM_pushToken, if_neg hend]
  intro h
  cases h

/-- A mixed list, with a range that contributes nothing. -/
example : parseCpuList (renderCpuList [.range 0 2, .core 7, .range 5 4, .range 10 11]) =
    .ok [0, 1, 2, 7, 10, 11] := by
  rw [parseCpuList_renderCpuList, foldlM_pushToken]
  decide

end CuCascade.Memory
