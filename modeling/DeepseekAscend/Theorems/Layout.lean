import DeepseekAscend.Theorems.Plan

/-! The padded layout in which the ranks exchange tokens (§3, §4.1): per-rank blocks of rows, each
    padded to the window, laid side by side in rank order. These are the list facts that the round
    trips of the padding functions and the refinements of the sharded branches rest on. -/

namespace DeepseekAscend

variable {α β : Type}

/-- A packed tensor cut into consecutive blocks of `counts[r]` rows, one per rank. -/
def splitRows : List Nat → List α → List (List α)
  | [], _ => []
  | c :: counts, x => x.take c :: splitRows counts (x.drop c)

/-- `x` followed by zero rows up to `n` rows. -/
def padTo [Zero α] (n : Nat) (x : List α) : List α := x ++ List.replicate (n - x.length) 0

/-- Rows `t * c` to `(t + 1) * c` of `x`: the `t`-th of its pieces of `c` rows. -/
def piece (c t : Nat) (x : List α) : List α := (x.drop (t * c)).take c

@[simp] theorem length_splitRows (counts : List Nat) (x : List α) : (splitRows counts x).length = counts.length := by
  induction counts generalizing x with
  | nil => rfl
  | cons c counts ih => simp [splitRows, ih]

theorem map_length_splitRows {counts : List Nat} {x : List α} (h : counts.sum ≤ x.length) :
    (splitRows counts x).map List.length = counts := by
  induction counts generalizing x with
  | nil => rfl
  | cons c counts ih =>
    simp only [List.sum_cons] at h
    simp only [splitRows, List.map_cons, List.length_take, ih (by simp; omega : counts.sum ≤ (x.drop c).length)]
    congr 1
    omega

theorem length_padTo [Zero α] {n : Nat} {x : List α} (h : x.length ≤ n) : (padTo n x).length = n := by
  simp [padTo]
  omega

/-! ### Uniform blocks -/

theorem drop_flatten_of_length {n : Nat} : ∀ (r : Nat) (xs : List (List α)), (∀ x ∈ xs, x.length = n) →
    xs.flatten.drop (r * n) = (xs.drop r).flatten
  | 0, xs, _ => by simp
  | _ + 1, [], _ => by simp
  | r + 1, x :: xs, h => by
    rw [List.flatten_cons, Nat.succ_mul, Nat.add_comm, ← List.drop_drop,
      List.drop_left' (h x (List.mem_cons_self _ _)), List.drop_succ_cons,
      drop_flatten_of_length r xs fun y hy => h y (List.mem_cons_of_mem _ hy)]

theorem take_flatten_drop {n r : Nat} {xs : List (List α)} (h : ∀ x ∈ xs, x.length = n) (hr : r < xs.length)
    {k : Nat} (hk : k ≤ n) : (xs.flatten.drop (r * n)).take k = xs[r].take k := by
  rw [drop_flatten_of_length r xs h, List.drop_eq_getElem_cons hr, List.flatten_cons,
    List.take_append_of_le_length (by rw [h _ (List.getElem_mem hr)]; exact hk)]

/-! ### The keep-mask selects the real rows -/

theorem select_replicate_true (x : List α) :
    (((x.zip (List.replicate x.length true)).filter (·.2)).map (·.1)) = x := by
  rw [List.filter_eq_self.mpr fun p hp => (List.eq_of_mem_replicate (List.of_mem_zip hp).2 :), List.map_fst_zip]
  simp

theorem select_replicate_false (x : List α) : (x.zip (List.replicate x.length false)).filter (·.2) = [] :=
  List.filter_eq_nil_iff.mpr fun p hp => by simp [List.eq_of_mem_replicate (List.of_mem_zip hp).2]

/-- Selecting with the keep-mask from windows holding real rows then pad rows keeps the real rows. -/
theorem maskSelect_keepMask (n : Nat) (blocks : List (List α × List α))
    (h : ∀ b ∈ blocks, b.1.length + b.2.length = n) :
    maskSelect (blocks.map fun b => b.1 ++ b.2).flatten (keepMask n (blocks.map fun b => b.1.length)) =
      .ok (blocks.map Prod.fst).flatten := by
  have hlen : (keepMask n (blocks.map fun b => b.1.length)).length = (blocks.map fun b => b.1 ++ b.2).flatten.length := by
    rw [length_keepMask _ _ (by simp only [List.mem_map]; rintro _ ⟨b, hb, rfl⟩; have := h b hb; omega)]
    simp only [List.length_flatten, List.map_map, List.length_map]
    induction blocks with
    | nil => simp
    | cons b bs ih =>
      simp only [List.length_cons, List.map_cons, List.sum_cons, Function.comp_apply, List.length_append,
        h b (List.mem_cons_self _ _), ih fun c hc => h c (List.mem_cons_of_mem _ hc), Nat.succ_mul]
      omega
  rw [maskSelect, if_pos hlen]
  congr 1
  clear hlen
  induction blocks with
  | nil => rfl
  | cons b bs ih =>
    have hb := h b (List.mem_cons_self _ _)
    have hzip : (b.1 ++ b.2).zip (List.replicate b.1.length true ++ List.replicate (n - b.1.length) false) =
        b.1.zip (List.replicate b.1.length true) ++ b.2.zip (List.replicate b.2.length false) := by
      rw [show n - b.1.length = b.2.length by omega, List.zip_append (by simp)]
    simp only [List.map_cons, List.flatten_cons, keepMask, List.flatMap_cons] at ih ⊢
    rw [List.zip_append (by simp; omega), hzip, List.filter_append, List.filter_append,
      select_replicate_false, List.append_nil, List.map_append, select_replicate_true,
      ih fun c hc => h c (List.mem_cons_of_mem _ hc)]

end DeepseekAscend
