import DeepseekAscend.Padding
import Mathlib.Order.Bounds.Basic
import Mathlib.Data.Nat.Cast.Order.Ring
import Mathlib.Algebra.Order.Group.Int
import Mathlib.Algebra.BigOperators.Ring

/-! The padding plan that a forward pass builds from the DP runner's cumulative token counts (§3, §4.1).

For per-rank counts `c₀, …, c_{dp-1}` the runner hands over their prefix sums. The plan then has
`lengths = counts`, the window `paddedLength` (the largest count rounded up to the TP width), one pad
amount per rank, and the keep-mask `keepMask` that marks the first `cᵣ` rows of window `r`. All later
statements about padding go through `build_prefixSums`, which says this once. -/

namespace DeepseekAscend
open DPMetadataForPadding

/-- The prefix sums of per-rank token counts: `cu_tokens_across_dp_cpu`. -/
def prefixSums : List Int → List Int
  | [] => []
  | x :: xs => x :: (prefixSums xs).map (x + ·)

/-- The window of the padded layout: the largest count rounded up to a multiple of the TP width. -/
def paddedLength (tpSize : Nat) (counts : List Nat) : Nat :=
  (counts.foldr max 0 + tpSize - 1) / tpSize * tpSize

/-- The keep-mask of windows of `n` rows, window `r` holding `counts[r]` real rows. -/
def keepMask (n : Nat) (counts : List Nat) : List Bool :=
  counts.flatMap fun c => List.replicate c true ++ List.replicate (n - c) false

/-! ### Differencing the prefix sums -/

/-- The differences of `cu` against the previous entry, with `0` before the first. -/
theorem zipWith_sub_shift (x : Int) (l : List Int) :
    List.zipWith (· - ·) (l.map (x + ·)) ((x :: l.map (x + ·)).dropLast) =
      List.zipWith (· - ·) l ((0 :: l).dropLast) := by
  have h : x :: l.map (x + ·) = (0 :: l).map (x + ·) := by simp
  rw [h, ← List.map_dropLast, List.zipWith_map]
  simp

theorem zipWith_sub_prefixSums (xs : List Int) :
    List.zipWith (· - ·) (prefixSums xs) ((0 :: prefixSums xs).dropLast) = xs := by
  induction xs with
  | nil => rfl
  | cons x xs ih =>
    rw [prefixSums, List.dropLast_cons₂, List.zipWith_cons_cons, zipWith_sub_shift, ih, sub_zero]

/-- The lengths of the code: `cat([cu[:1], cu[1:] - cu[:-1]])` undoes the prefix sums. -/
theorem lengths_prefixSums (xs : List Int) :
    (prefixSums xs).take 1 ++ List.zipWith (· - ·) (prefixSums xs).tail (prefixSums xs).dropLast = xs := by
  conv_rhs => rw [← zipWith_sub_prefixSums xs]
  cases h : prefixSums xs with
  | nil => rfl
  | cons c rest => simp [List.dropLast_cons₂]

@[simp] theorem length_prefixSums (xs : List Int) : (prefixSums xs).length = xs.length := by
  induction xs with
  | nil => rfl
  | cons x xs ih => simp [prefixSums, ih]

theorem getLast?_prefixSums (xs : List Int) (h : xs ≠ []) : (prefixSums xs).getLast? = some xs.sum := by
  induction xs with
  | nil => exact absurd rfl h
  | cons x xs ih =>
    rcases xs with _ | ⟨y, ys⟩
    · simp [prefixSums]
    · rw [prefixSums, List.getLast?_cons, List.getLast?_map, ih (List.cons_ne_nil _ _)]
      simp

/-! ### The window -/

theorem le_foldr_max {counts : List Nat} {c : Nat} (h : c ∈ counts) : c ≤ counts.foldr max 0 := by
  induction counts with
  | nil => cases h
  | cons d ds ih =>
    rcases List.mem_cons.mp h with rfl | h
    · exact le_max_left _ _
    · exact (ih h).trans (le_max_right _ _)

theorem foldr_max_mem {counts : List Nat} (h : counts ≠ []) : counts.foldr max 0 ∈ counts := by
  induction counts with
  | nil => exact absurd rfl h
  | cons d ds ih =>
    rcases ds with _ | ⟨e, es⟩
    · simp
    · rcases max_choice d ((e :: es).foldr max 0) with hm | hm <;> rw [List.foldr_cons, hm]
      · exact List.mem_cons_self _ _
      · exact List.mem_cons_of_mem _ (ih (List.cons_ne_nil _ _))

theorem max?_map_natCast (counts : List Nat) (h : counts ≠ []) :
    (counts.map ((↑) : Nat → Int)).max? = some ((counts.foldr max 0 : Nat) : Int) := by
  have hmem := List.mem_map_of_mem ((↑) : Nat → Int) (foldr_max_mem h)
  obtain ⟨a, ha⟩ := Option.isSome_iff_exists.mp (List.isSome_max?_of_mem hmem)
  have h1 : a ≤ ((counts.foldr max 0 : Nat) : Int) :=
    (List.max?_le_iff (fun _ _ _ => max_le_iff) ha).mpr (by simpa using fun c hc => le_foldr_max hc)
  have h2 : ((counts.foldr max 0 : Nat) : Int) ≤ a := (List.max?_le_iff (fun _ _ _ => max_le_iff) ha).mp le_rfl _ hmem
  rw [ha, le_antisymm h1 h2]

theorem le_paddedLength {tpSize : Nat} (htp : 0 < tpSize) {counts : List Nat} {c : Nat} (h : c ∈ counts) :
    c ≤ paddedLength tpSize counts := by
  have hc := le_foldr_max h
  have := Nat.lt_div_mul_add (a := counts.foldr max 0 + tpSize - 1) htp
  unfold paddedLength
  omega

theorem dvd_paddedLength (tpSize : Nat) (counts : List Nat) : tpSize ∣ paddedLength tpSize counts :=
  Nat.dvd_mul_left _ _

/-- No multiple of the TP width below `paddedLength` holds every count. -/
theorem paddedLength_le {tpSize : Nat} (htp : 0 < tpSize) {counts : List Nat} {k : Nat}
    (hk : tpSize ∣ k) (hle : counts.foldr max 0 ≤ k) : paddedLength tpSize counts ≤ k := by
  obtain ⟨q, rfl⟩ := hk
  have : (counts.foldr max 0 + tpSize - 1) / tpSize ≤ q :=
    (Nat.div_le_iff_le_mul_add_pred htp).mpr (by omega)
  calc paddedLength tpSize counts ≤ q * tpSize := Nat.mul_le_mul_right tpSize this
    _ = tpSize * q := Nat.mul_comm _ _

theorem fdiv_paddedLength {tpSize : Nat} (htp : 0 < tpSize) (counts : List Nat) :
    Int.fdiv (((counts.foldr max 0 : Nat) : Int) + tpSize - 1) tpSize * tpSize = paddedLength tpSize counts := by
  rw [Int.fdiv_eq_ediv _ (by omega), paddedLength]
  have : ((counts.foldr max 0 : Nat) : Int) + tpSize - 1 = ((counts.foldr max 0 + tpSize - 1 : Nat) : Int) := by
    omega
  rw [this]
  norm_cast

/-! ### The keep-mask -/

theorem map_range_lt (c n : Nat) (h : c ≤ n) :
    (List.range n).map (fun (j : Nat) => decide ((j : Int) < c)) =
      List.replicate c true ++ List.replicate (n - c) false := by
  have hlen : ((List.range n).map (fun (j : Nat) => decide ((j : Int) < c))).length =
      (List.replicate c true ++ List.replicate (n - c) false).length := by
    simp only [List.length_map, List.length_range, List.length_append, List.length_replicate]
    omega
  apply List.ext_getElem hlen
  intro j h₁ h₂
  simp only [List.getElem_map, List.getElem_range, List.getElem_append, List.length_replicate, List.getElem_replicate]
  split <;> simp <;> omega

theorem map_range_eq {β γ : Type} (l : List β) (F : Nat → γ) (G : β → γ)
    (h : ∀ r (hr : r < l.length), F r = G l[r]) : (List.range l.length).map F = l.map G :=
  List.ext_getElem (by simp) fun r h₁ _ => by
    simp only [List.getElem_map, List.getElem_range]
    exact h r (by simpa using h₁)

theorem unpadMask_eq (counts : List Nat) (n : Nat) (h : ∀ c ∈ counts, c ≤ n) :
    unpadMask counts.length (counts.map (↑)) n = .ok (keepMask n counts) := by
  rw [unpadMask, if_neg (by omega), if_pos (Or.inl (by simp)), List.length_map, max_self]
  unfold keepMask List.flatMap
  congr 2
  refine map_range_eq counts _ _ fun r hr => ?_
  have hget : (counts.map ((↑) : Nat → Int)).getD (r % counts.length) 0 = (counts[r] : Int) := by
    simp [Nat.mod_eq_of_lt hr, List.getD_eq_getElem?_getD, List.getElem?_eq_getElem hr]
  rw [hget, Int.toNat_natCast]
  exact map_range_lt _ _ (h _ (List.getElem_mem hr))

@[simp] theorem length_keepMask (n : Nat) (counts : List Nat) (h : ∀ c ∈ counts, c ≤ n) :
    (keepMask n counts).length = counts.length * n := by
  induction counts with
  | nil => simp [keepMask]
  | cons c cs ih =>
    have hc := h c (List.mem_cons_self _ _)
    simp only [keepMask, List.flatMap_cons, List.length_append, List.length_replicate] at ih ⊢
    rw [ih fun d hd => h d (List.mem_cons_of_mem _ hd)]
    simp only [List.length_cons, Nat.succ_mul]
    omega

theorem count_keepMask (n : Nat) (counts : List Nat) : (keepMask n counts).count true = counts.sum := by
  induction counts with
  | nil => rfl
  | cons c cs ih =>
    simp only [keepMask] at ih
    simp [keepMask, List.count_replicate, ih]

theorem getElem?_keepMask (n : Nat) (counts : List Nat) (h : ∀ c ∈ counts, c ≤ n) {r j : Nat}
    (hr : r < counts.length) (hj : j < n) : (keepMask n counts)[r * n + j]? = some (decide (j < counts[r])) := by
  induction counts generalizing r with
  | nil => cases hr
  | cons c cs ih =>
    have hc := h c (List.mem_cons_self _ _)
    have hblock : (List.replicate c true ++ List.replicate (n - c) false).length = n := by simp; omega
    cases r with
    | zero =>
      simp only [keepMask, List.flatMap_cons, Nat.zero_mul, Nat.zero_add, List.getElem_cons_zero]
      rw [List.getElem?_append_left (by omega), List.getElem?_eq_getElem (by omega)]
      simp only [List.getElem_append, List.length_replicate, List.getElem_replicate]
      split <;> simp <;> omega
    | succ r =>
      simp only [keepMask, List.flatMap_cons, List.getElem_cons_succ]
      rw [List.getElem?_append_right (by rw [hblock, Nat.succ_mul]; omega), hblock]
      have : (r + 1) * n + j - n = r * n + j := by rw [Nat.succ_mul]; omega
      rw [this]
      exact ih (fun d hd => h d (List.mem_cons_of_mem _ hd)) (by simpa using hr)

/-! ### The plan -/

/-- The plan of per-rank counts `counts`, field by field. -/
def planOf (tpSize : Nat) (counts : List Nat) : DPMetadataForPadding :=
  ⟨prefixSums (counts.map (↑)), counts.map (↑), paddedLength tpSize counts,
    counts.map fun c => ((paddedLength tpSize counts - c : Nat) : Int), keepMask (paddedLength tpSize counts) counts⟩

@[simp] theorem planOf_lengths (tpSize : Nat) (counts : List Nat) :
    (planOf tpSize counts).lengths = counts.map (↑) := rfl

@[simp] theorem planOf_maxLength (tpSize : Nat) (counts : List Nat) :
    (planOf tpSize counts).maxLength = paddedLength tpSize counts := rfl

@[simp] theorem planOf_padSize (tpSize : Nat) (counts : List Nat) :
    (planOf tpSize counts).padSize = counts.map fun c => ((paddedLength tpSize counts - c : Nat) : Int) := rfl

@[simp] theorem planOf_attenUnpadMask (tpSize : Nat) (counts : List Nat) :
    (planOf tpSize counts).attenUnpadMask = keepMask (paddedLength tpSize counts) counts := rfl

/-- The plan built from the prefix sums of per-rank counts. -/
theorem build_prefixSums {dpSize tpSize : Nat} (htp : 0 < tpSize) {counts : List Nat}
    (hdp : counts.length = dpSize) (hne : counts ≠ []) :
    build dpSize tpSize (prefixSums (counts.map (↑))) = .ok (planOf tpSize counts) := by
  subst hdp
  have hle : ∀ c ∈ counts, c ≤ paddedLength tpSize counts := fun c hc => le_paddedLength htp hc
  simp only [build, lengths_prefixSums, max?_map_natCast counts hne, fdiv_paddedLength htp,
    unpadMask_eq counts _ hle, List.length_map]
  simp only [ok_bind, pure_eq_ok, List.map_map, planOf, Except.ok.injEq, DPMetadataForPadding.mk.injEq, true_and,
    and_true]
  exact List.map_congr_left fun c hc => by
    have := hle c hc
    simp only [Function.comp_apply]
    omega

/-! ### The postcondition -/

/-- What the plan promises for per-rank counts `counts` (§3 PaddingPlan): the lengths difference the
    prefix sums back, the window is the least multiple of the TP width holding every rank, and the mask
    marks the first `lengths[r]` rows of window `r`. -/
structure PlanSpec (dpSize tpSize : Nat) (counts : List Nat) (m : DPMetadataForPadding) : Prop where
  prefixSums_lengths : prefixSums m.lengths = prefixSums (counts.map (↑))
  lengths_nonneg : ∀ l ∈ m.lengths, 0 ≤ l
  getLast?_cu : m.cuTokensAcrossDpCpu.getLast? = some m.lengths.sum
  maxLength_isLeast : IsLeast {k : Int | (tpSize : Int) ∣ k ∧ ∀ l ∈ m.lengths, l ≤ k} m.maxLength
  padSize_eq : m.padSize = m.lengths.map (m.maxLength - ·)
  padSize_nonneg : ∀ p ∈ m.padSize, 0 ≤ p
  length_mask : m.attenUnpadMask.length = dpSize * m.maxLength.toNat
  getElem?_mask : ∀ r < dpSize, ∀ j < m.maxLength.toNat,
    m.attenUnpadMask[r * m.maxLength.toNat + j]? = some (decide ((j : Int) < m.lengths.getD r 0))
  count_mask : (m.attenUnpadMask.count true : Int) = m.lengths.sum

theorem isLeast_paddedLength {tpSize : Nat} (htp : 0 < tpSize) {counts : List Nat} (hne : counts ≠ []) :
    IsLeast {k : Int | (tpSize : Int) ∣ k ∧ ∀ l ∈ counts.map ((↑) : Nat → Int), l ≤ k}
      (paddedLength tpSize counts) := by
  refine ⟨⟨Int.natCast_dvd_natCast.mpr (dvd_paddedLength _ _), ?_⟩, fun k ⟨hk, hle⟩ => ?_⟩
  · simpa using fun c hc => le_paddedLength htp hc
  · have hmax := hle _ (List.mem_map_of_mem _ (foldr_max_mem hne))
    obtain ⟨n, rfl⟩ := Int.eq_ofNat_of_zero_le (le_trans (Int.natCast_nonneg _) hmax)
    exact Int.ofNat_le.mpr (paddedLength_le htp (Int.natCast_dvd_natCast.mp hk) (by omega))

theorem build_spec {dpSize tpSize : Nat} (htp : 0 < tpSize) (counts : List Nat)
    (hdp : counts.length = dpSize) (hpos : 0 < dpSize) :
    ∃ m, build dpSize tpSize (prefixSums (counts.map (↑))) = .ok m ∧ PlanSpec dpSize tpSize counts m := by
  have hne : counts ≠ [] := fun h => by simp [h] at hdp; omega
  have hle : ∀ c ∈ counts, c ≤ paddedLength tpSize counts := fun c hc => le_paddedLength htp hc
  refine ⟨_, build_prefixSums htp hdp hne, ⟨rfl, ?_, ?_, isLeast_paddedLength htp hne, ?_, ?_, ?_, ?_, ?_⟩⟩
  · exact fun l hl => by obtain ⟨c, -, rfl⟩ := List.mem_map.mp hl; omega
  · exact getLast?_prefixSums _ (by simpa using hne)
  · simp only [planOf_padSize, planOf_lengths, planOf_maxLength, List.map_map]
    exact List.map_congr_left fun c hc => by have := hle c hc; simp only [Function.comp_apply]; omega
  · exact fun p hp => by obtain ⟨c, -, rfl⟩ := List.mem_map.mp hp; omega
  · simp [length_keepMask _ _ hle, hdp]
  · intro r hr j hj
    subst hdp
    simp only [planOf_maxLength, Int.toNat_natCast] at hj ⊢
    rw [planOf_attenUnpadMask, getElem?_keepMask _ _ hle hr hj]
    simp [List.getD_eq_getElem?_getD, List.getElem?_eq_getElem hr]
  · simp [count_keepMask, Nat.cast_list_sum]

/-- The scenario of §8: two DP ranks of five and three tokens on a TP width of two. -/
theorem build_spec_five_three :
    0 < 2 ∧ [5, 3].length = 2 ∧ 0 < 2 ∧
      ∃ m, build 2 2 (prefixSums ([5, 3].map (↑))) = .ok m ∧ PlanSpec 2 2 [5, 3] m :=
  ⟨by decide, rfl, by decide, build_spec (by decide) [5, 3] rfl (by decide)⟩

end DeepseekAscend
