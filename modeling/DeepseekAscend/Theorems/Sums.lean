import DeepseekAscend.Theorems.Layout

/-! Sums of tensors laid out in windows, and their pieces: what the reduce-scatters and all-gathers of the
    sharded branches compute (§4.2, §5). A sum of tensors made of blocks is the blocks' sums, zero rows
    sum to zero rows, and so the sum of the windows of every rank's packed tensor is the window of the
    packed sum. The pieces of `c` rows of a tensor of `k * c` rows concatenate back to it. -/

namespace DeepseekAscend

variable {α β : Type}

/-! ### Pieces -/

theorem length_piece {c t : Nat} {x : List α} (h : (t + 1) * c ≤ x.length) : (piece c t x).length = c := by
  simp only [piece, List.length_take, List.length_drop, Nat.succ_mul] at h ⊢
  omega

theorem flatten_pieces (c : Nat) (x : List α) :
    ∀ k, ((List.range k).map fun t => piece c t x).flatten = x.take (k * c)
  | 0 => by simp
  | k + 1 => by
    rw [List.range_succ, List.map_append, List.flatten_append, flatten_pieces c x k, Nat.succ_mul, List.take_add]
    simp [piece]

theorem map_piece (f : α → β) (c t : Nat) (x : List α) : (piece c t x).map f = piece c t (x.map f) := by
  simp only [piece, List.map_take, List.map_drop]

theorem zipWith_piece (f : α → α → α) (c t : Nat) (a b : List α) :
    List.zipWith f (piece c t a) (piece c t b) = piece c t (List.zipWith f a b) := by
  simp only [piece, List.take_zipWith, List.drop_zipWith]

/-- Piece `r * k + t` of windows of `k * c` rows laid side by side is piece `t` of window `r`. -/
theorem piece_flatten {c k t r : Nat} {xs : List (List α)} (h : ∀ x ∈ xs, x.length = k * c) (ht : t < k)
    (hr : r < xs.length) : piece c (r * k + t) xs.flatten = piece c t xs[r] := by
  have hlen := h _ (List.getElem_mem hr)
  have htc : t * c + c ≤ k * c := by rw [← Nat.succ_mul]; exact Nat.mul_le_mul_right c ht
  rw [piece, piece, Nat.add_mul, Nat.mul_assoc, ← List.drop_drop, drop_flatten_of_length r xs h,
    List.drop_eq_getElem_cons hr, List.flatten_cons, List.drop_append_of_le_length (by omega),
    List.take_append_of_le_length (by simp; omega)]

theorem zipWith_padTo [AddZeroClass α] (n : Nat) {a b : List α} (h : a.length = b.length) :
    List.zipWith (· + ·) (padTo n a) (padTo n b) = padTo n (List.zipWith (· + ·) a b) := by
  simp [padTo, List.zipWith_append _ _ _ _ _ h, List.zipWith_replicate, h]

theorem map_padTo [Zero α] (f : α → β) (n : Nat) (x : List α) :
    (padTo n x).map f = x.map f ++ List.replicate (n - x.length) (f 0) := by
  simp [padTo]

theorem length_windows [Zero α] {n : Nat} : ∀ {counts : List Nat}, (∀ c ∈ counts, c ≤ n) → ∀ x : List α,
    ((splitRows counts x).map (padTo n)).flatten.length = counts.length * n
  | [], _, _ => by simp [splitRows]
  | c :: counts, hn, x => by
    have hc := hn c (List.mem_cons_self _ _)
    rw [splitRows, List.map_cons, List.flatten_cons, List.length_append,
      length_padTo (by simp; omega), length_windows (fun d hd => hn d (List.mem_cons_of_mem _ hd)),
      List.length_cons, Nat.succ_mul, Nat.add_comm]

theorem length_le_of_mem_splitRows {n : Nat} : ∀ {counts : List Nat} {x b : List α}, (∀ c ∈ counts, c ≤ n) →
    b ∈ splitRows counts x → b.length ≤ n
  | [], _, _, _, hb => by simp [splitRows] at hb
  | c :: counts, x, b, hn, hb => by
    rw [splitRows, List.mem_cons] at hb
    rcases hb with rfl | hb
    · simpa using Nat.le_trans (Nat.min_le_left _ _) (hn c (List.mem_cons_self _ _))
    · exact length_le_of_mem_splitRows (fun d hd => hn d (List.mem_cons_of_mem _ hd)) hb

theorem length_getD_splitRows : ∀ {counts : List Nat} (x : List α), counts.sum ≤ x.length → ∀ r,
    ((splitRows counts x).getD r []).length = counts.getD r 0
  | [], _, _, _ => rfl
  | c :: counts, x, h, 0 => by simp only [List.sum_cons] at h; simp [splitRows]; omega
  | c :: counts, x, h, r + 1 => by
    simp only [List.sum_cons] at h
    simpa [splitRows] using length_getD_splitRows (x.drop c) (by simp; omega) r

theorem splitRows_flatten : ∀ {counts : List Nat} {xs : List (List α)}, xs.map List.length = counts →
    splitRows counts xs.flatten = xs
  | [], [], _ => rfl
  | c :: counts, x :: xs, h => by
    simp only [List.map_cons, List.cons.injEq] at h
    rw [splitRows, List.flatten_cons, ← h.1, List.take_left' rfl, List.drop_left' rfl, splitRows_flatten h.2]

/-! ### Sums of rows -/

section Sums
variable [AddCommMonoid α]

theorem getElem_sumRows {n : Nat} {xs : List (List α)} {i : Nat} (h : i < (sumRows n xs).length) :
    (sumRows n xs)[i] = (xs.map fun x => x.getD i 0).sum := by
  simp [sumRows]

/-- The sum of tensors made of a block of `a` rows and a block of `b` rows is made of the blocks' sums. -/
theorem sumRows_append {a b : Nat} (xs : List β) (f g : β → List α) (hf : ∀ x ∈ xs, (f x).length = a) :
    sumRows (a + b) (xs.map fun x => f x ++ g x) = sumRows a (xs.map f) ++ sumRows b (xs.map g) := by
  refine List.ext_getElem (by simp) fun i h₁ h₂ => ?_
  rw [getElem_sumRows, List.map_map]
  by_cases hi : i < a
  · rw [List.getElem_append_left (by simpa using hi), getElem_sumRows, List.map_map]
    refine congrArg List.sum (List.map_congr_left fun x hx => ?_)
    simp [List.getElem?_append_left (by rw [hf x hx]; exact hi)]
  · rw [List.getElem_append_right (by simpa using hi), getElem_sumRows, List.map_map, length_sumRows]
    refine congrArg List.sum (List.map_congr_left fun x hx => ?_)
    simp [List.getElem?_append_right (hf x hx ▸ Nat.le_of_not_lt hi), hf x hx]

theorem sumRows_singleton {n : Nat} {x : List α} (h : x.length = n) : sumRows n [x] = x :=
  List.ext_getElem (by simp [h]) fun i _ hi => by simp [sumRows, List.getElem?_eq_getElem hi]

theorem sumRows_replicate_zero (n : Nat) (xs : List β) :
    sumRows n (xs.map fun _ => List.replicate n (0 : α)) = List.replicate n 0 :=
  List.ext_getElem (by simp) fun i _ h => by
    simp only [List.length_replicate] at h
    simp [sumRows, List.getElem?_replicate, h, nsmul_zero]

theorem sumRows_take {k n : Nat} (hk : k ≤ n) (xs : List (List α)) :
    sumRows k (xs.map (List.take k)) = (sumRows n xs).take k :=
  List.ext_getElem (by simp; omega) fun i h₁ _ => by
    simp only [length_sumRows] at h₁
    simp [sumRows, Function.comp_def, List.getElem?_take_of_lt h₁, h₁, Nat.lt_of_lt_of_le h₁ hk]

theorem sumRows_drop (o k : Nat) (xs : List (List α)) :
    sumRows k (xs.map (List.drop o)) = (sumRows (o + k) xs).drop o :=
  List.ext_getElem (by simp) fun i h₁ _ => by
    simp only [length_sumRows] at h₁
    simp [sumRows, Function.comp_def, List.getElem?_drop, h₁]

/-- Summing padded tensors pads their sum. -/
theorem sumRows_padTo {n m : Nat} {xs : List (List α)} (h : ∀ x ∈ xs, x.length = n) (hn : n ≤ m) :
    sumRows m (xs.map (padTo m)) = padTo m (sumRows n xs) := by
  obtain ⟨k, rfl⟩ := Nat.exists_eq_add_of_le hn
  have hpad : xs.map (padTo (n + k)) = xs.map fun x => id x ++ List.replicate k (0 : α) :=
    List.map_congr_left fun x hx => by simp [padTo, h x hx]
  rw [hpad, sumRows_append xs id _ h, List.map_id, sumRows_replicate_zero]
  simp [padTo]

/-- The sum of the windows of packed tensors is the window of their packed sum. -/
theorem sumRows_windows (n : Nat) : ∀ (counts : List Nat) (xs : List (List α)), (∀ c ∈ counts, c ≤ n) →
    (∀ x ∈ xs, counts.sum ≤ x.length) →
    sumRows (counts.length * n) (xs.map fun x => ((splitRows counts x).map (padTo n)).flatten) =
      ((splitRows counts (sumRows counts.sum xs)).map (padTo n)).flatten
  | [], xs, _, _ => by simp [sumRows, splitRows]
  | c :: counts, xs, hn, hx => by
    have hc := hn c (List.mem_cons_self _ _)
    have htake : ∀ x ∈ xs, (x.take c).length = c := fun x hx' => by
      have := hx x hx'
      simp only [List.sum_cons] at this
      simp; omega
    have hrest := sumRows_windows n counts (xs.map (List.drop c)) (fun d hd => hn d (List.mem_cons_of_mem _ hd))
      (by simp only [List.mem_map]; rintro _ ⟨x, hx', rfl⟩; have := hx x hx'; simp at this ⊢; omega)
    have hfirst : sumRows n (xs.map fun x => padTo n (x.take c)) = padTo n ((sumRows (c + counts.sum) xs).take c) := by
      rw [← sumRows_take (Nat.le_add_right c counts.sum), ← sumRows_padTo _ hc, List.map_map]
      · rfl
      · simp only [List.mem_map]
        rintro _ ⟨x, hx', rfl⟩
        exact htake x hx'
    simp only [splitRows, List.map_cons, List.flatten_cons, List.length_cons, List.sum_cons]
    rw [Nat.succ_mul, Nat.add_comm, sumRows_append xs _ _ fun x hx' => length_padTo (by rw [htake x hx']; exact hc),
      hfirst, ← sumRows_drop, ← hrest, List.map_map]
    rfl

end Sums

end DeepseekAscend
