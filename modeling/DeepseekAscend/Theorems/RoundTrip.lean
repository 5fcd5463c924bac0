import DeepseekAscend.Theorems.Layout

/-! Round trips of the padding functions (§4.1, §8). `padding_aligned_tp` pads the rows of one rank to
    the window; `unpadding_aligned_tp` keeps, from the windows of all ranks laid in rank order, exactly
    the real rows. `padding_aligned_wp` lays a tensor packed rank after rank in the same windows, by a
    loop whose two cursors advance by `seq_len` and by `max_length`; `unpadding_aligned_wp` takes the
    rows of one rank back out of its window. -/

namespace DeepseekAscend
open DPMetadataForPadding

variable {α : Type} [Zero α]

theorem paddingAlignedTp_planOf (tpSize : Nat) {counts : List Nat} {r : Nat} (hr : r < counts.length)
    (x : List α) :
    paddingAlignedTp (some (planOf tpSize counts)) r x =
      .ok (x ++ List.replicate (paddedLength tpSize counts - counts[r]) 0) :=
  paddingAlignedTp_eq (by simp [List.getElem?_eq_getElem hr]) x

/-- The outputs of `padding_aligned_tp` on every rank of the plan, when rank `r` holds `xs[r]`. -/
theorem eq_of_paddingAlignedTp {tpSize : Nat} {xs ps : List (List α)} (hlen : ps.length = xs.length)
    (hps : ∀ r (hr : r < xs.length) (hp : r < ps.length),
      paddingAlignedTp (some (planOf tpSize (xs.map List.length))) r xs[r] = .ok ps[r]) :
    ps = xs.map (padTo (paddedLength tpSize (xs.map List.length))) := by
  refine List.ext_getElem (by simp [hlen]) fun r hp hx => ?_
  have hr : r < xs.length := by simpa using hx
  have h := hps r hr hp
  rw [paddingAlignedTp_planOf _ (by simpa using hr)] at h
  simpa [padTo] using (Except.ok.inj h).symm

/-! ### Round trip through the keep-mask -/

theorem unpaddingAlignedTp_padTo {tpSize : Nat} (htp : 0 < tpSize) (xs : List (List α)) :
    unpaddingAlignedTp (some (planOf tpSize (xs.map List.length)))
      (xs.map (padTo (paddedLength tpSize (xs.map List.length)))).flatten = .ok xs.flatten := by
  have hle : ∀ x ∈ xs, x.length ≤ paddedLength tpSize (xs.map List.length) :=
    fun x hx => le_paddedLength htp (List.mem_map_of_mem _ hx)
  have h := maskSelect_keepMask (paddedLength tpSize (xs.map List.length))
    (xs.map fun x => (x, List.replicate (paddedLength tpSize (xs.map List.length) - x.length) (0 : α)))
    (by simp only [List.mem_map]; rintro _ ⟨x, hx, rfl⟩; have := hle x hx; simp; omega)
  simpa [unpaddingAlignedTp, List.map_map, Function.comp_def, padTo] using h

theorem unpaddingAlignedTp_paddingAlignedTp {tpSize : Nat} (htp : 0 < tpSize) (counts : List Nat)
    (hne : counts ≠ []) (xs : List (List α)) (hxs : xs.map List.length = counts) :
    ∃ m, build counts.length tpSize (prefixSums (counts.map (↑))) = .ok m ∧
      (∀ r (hr : r < xs.length),
        paddingAlignedTp (some m) r xs[r] = .ok (xs[r] ++ List.replicate (m.padSize.getD r 0).toNat 0) ∧
          xs[r].length + (m.padSize.getD r 0).toNat = m.maxLength.toNat) ∧
      ∀ ps : List (List α), ps.length = xs.length →
        (∀ r (hr : r < xs.length) (hp : r < ps.length), paddingAlignedTp (some m) r xs[r] = .ok ps[r]) →
        unpaddingAlignedTp (some m) ps.flatten = .ok xs.flatten := by
  subst hxs
  refine ⟨_, build_prefixSums htp rfl hne, fun r hr => ?_, fun ps hlen hps => ?_⟩
  · have hr' : r < (xs.map List.length).length := by simpa using hr
    have hle := le_paddedLength htp (List.getElem_mem hr')
    have hpad : ((planOf tpSize (xs.map List.length)).padSize.getD r 0).toNat =
        paddedLength tpSize (xs.map List.length) - xs[r].length := by
      simp [List.getD_eq_getElem?_getD, List.getElem?_eq_getElem hr]
    simp only [List.getElem_map] at hle
    refine ⟨?_, ?_⟩
    · rw [hpad, paddingAlignedTp_planOf _ hr']
      simp
    · rw [hpad, planOf_maxLength, Int.toNat_natCast]
      omega
  · rw [eq_of_paddingAlignedTp hlen hps]
    exact unpaddingAlignedTp_padTo htp xs

/-- Two DP ranks of two and one tokens on a TP width of two. -/
theorem unpaddingAlignedTp_paddingAlignedTp_two_one :
    0 < 2 ∧ [2, 1] ≠ [] ∧ [[(1 : Int), 2], [3]].map List.length = [2, 1] ∧
      ∃ m, build [2, 1].length 2 (prefixSums ([2, 1].map (↑))) = .ok m ∧
        (∀ r (hr : r < [[(1 : Int), 2], [3]].length),
          paddingAlignedTp (some m) r [[(1 : Int), 2], [3]][r] =
            .ok ([[(1 : Int), 2], [3]][r] ++ List.replicate (m.padSize.getD r 0).toNat 0) ∧
          [[(1 : Int), 2], [3]][r].length + (m.padSize.getD r 0).toNat = m.maxLength.toNat) ∧
        ∀ ps : List (List Int), ps.length = [[(1 : Int), 2], [3]].length →
          (∀ r (hr : r < [[(1 : Int), 2], [3]].length) (hp : r < ps.length),
            paddingAlignedTp (some m) r [[(1 : Int), 2], [3]][r] = .ok ps[r]) →
          unpaddingAlignedTp (some m) ps.flatten = .ok [[(1 : Int), 2], [3]].flatten :=
  ⟨by decide, by decide, rfl, unpaddingAlignedTp_paddingAlignedTp (by decide) [2, 1] (by decide) _ rfl⟩

/-! ### The loop of `padding_aligned_wp` -/

/-- The loop, from a state whose first windows are filled and whose cursors stand at the next rank:
    every remaining rank's rows land at the start of its own window, the rest of the window stays zero. -/
theorem loop_eq (n : Nat) (data : List α) : ∀ (ls : List Nat) (pre : List α) (s : Nat),
    (∀ c ∈ ls, c ≤ n) → s + ls.sum ≤ data.length →
    paddingAlignedWp.loop n data (ls.map (↑)) (pre ++ List.replicate (ls.length * n) 0) s pre.length =
      .ok (pre ++ ((splitRows ls (data.drop s)).map (padTo n)).flatten)
  | [], pre, _, _, _ => by simp [paddingAlignedWp.loop, splitRows]
  | c :: ls, pre, s, hle, hs => by
    have hc := hle c (List.mem_cons_self _ _)
    simp only [List.sum_cons] at hs
    have hv : (pySlice data s ((s + c : Nat) : Int)).length = c := by
      rw [pySlice_natCast, List.length_take, List.length_drop]
      omega
    have hmerged : pre.length + c ≤ (pre ++ List.replicate ((ls.length + 1) * n) (0 : α)).length := by
      simp [Nat.succ_mul]
      omega
    have hrest : (pre ++ List.replicate ((ls.length + 1) * n) (0 : α)).drop (pre.length + c) =
        List.replicate (n - c) 0 ++ List.replicate (ls.length * n) 0 := by
      rw [← List.drop_drop, List.drop_left' rfl, List.drop_replicate, List.append_replicate_replicate]
      congr 1
      rw [Nat.succ_mul]
      omega
    rw [List.map_cons, paddingAlignedWp.loop, ← Nat.cast_add, ← Nat.cast_add, List.length_cons,
      setSlice_natCast hmerged hv, ok_bind, ← Nat.cast_add, List.take_left' rfl, hrest, ← List.append_assoc]
    have hlen : (pre ++ pySlice data s ((s + c : Nat) : Int) ++ List.replicate (n - c) 0).length = pre.length + n := by
      simp only [List.length_append, hv, List.length_replicate]
      omega
    rw [← hlen, loop_eq n data ls _ (s + c) (fun d hd => hle d (List.mem_cons_of_mem _ hd)) (by omega),
      pySlice_natCast, Nat.add_sub_cancel_left, splitRows, List.drop_drop, List.map_cons, List.flatten_cons]
    simp only [padTo, List.append_assoc, List.length_take, List.length_drop]
    rw [Nat.min_eq_left (by omega : c ≤ data.length - s)]

/-- `padding_aligned_wp` of the plan lays the blocks of the packed tensor in the windows. -/
theorem paddingAlignedWp_planOf {tpSize : Nat} {counts : List Nat} (htp : 0 < tpSize) {X : List α}
    (hX : X.length = counts.sum) :
    paddingAlignedWp (some (planOf tpSize counts)) X =
      .ok ((splitRows counts X).map (padTo (paddedLength tpSize counts))).flatten := by
  have h := loop_eq (paddedLength tpSize counts) X counts [] 0 (fun c hc => le_paddedLength htp hc) (by omega)
  simp only [List.nil_append, List.drop_zero, List.length_nil, Nat.cast_zero] at h
  rw [paddingAlignedWp, read_some, ok_bind, planOf_maxLength, planOf_lengths, List.length_map,
    ← Nat.cast_mul, zeros_natCast, ok_bind, Nat.mul_comm, h]

theorem unpaddingAlignedWp_planOf {tpSize : Nat} {counts : List Nat} (htp : 0 < tpSize) {X : List α}
    (hX : X.length = counts.sum) {r : Nat} (hr : r < counts.length) :
    unpaddingAlignedWp (some (planOf tpSize counts)) r
      ((splitRows counts X).map (padTo (paddedLength tpSize counts))).flatten = .ok ((splitRows counts X).getD r []) := by
  have hlen := map_length_splitRows (le_of_eq hX.symm)
  have hr' : r < (splitRows counts X).length := by simpa using hr
  have hblock : ((splitRows counts X)[r]).length = counts[r] := by
    have h := congrArg (fun l => l[r]?) hlen
    simpa [List.getElem?_eq_getElem hr', List.getElem?_eq_getElem hr] using h
  have hle := le_paddedLength htp (List.getElem_mem hr)
  have hwin : ∀ x ∈ (splitRows counts X).map (padTo (paddedLength tpSize counts)), x.length = paddedLength tpSize counts := by
    simp only [List.mem_map]
    rintro _ ⟨x, hx, rfl⟩
    exact length_padTo (le_paddedLength htp (hlen ▸ List.mem_map_of_mem List.length hx))
  rw [unpaddingAlignedWp, read_some, ok_bind, planOf_lengths, getItem_of_lt (by simpa using hr), ok_bind,
    List.getElem_map, planOf_maxLength, ← Nat.cast_mul, ← Nat.cast_add, pySlice_natCast, Nat.add_sub_cancel_left,
    Nat.mul_comm, take_flatten_drop hwin (by simpa using hr) hle, List.getElem_map, padTo, ← hblock,
    List.take_left' rfl, List.getD_eq_getElem?_getD, List.getElem?_eq_getElem hr', Option.getD_some, pure_eq_ok]

theorem paddingAlignedWp_paddingAlignedTp {tpSize : Nat} (htp : 0 < tpSize) (counts : List Nat)
    (hne : counts ≠ []) (X : List α) (hX : X.length = counts.sum) :
    ∃ m, build counts.length tpSize (prefixSums (counts.map (↑))) = .ok m ∧
      ∀ ps : List (List α), ps.length = counts.length →
        (∀ r (hp : r < ps.length), paddingAlignedTp (some m) r ((splitRows counts X).getD r []) = .ok ps[r]) →
        paddingAlignedWp (some m) X = .ok ps.flatten ∧
          ∀ r < counts.length, unpaddingAlignedWp (some m) r ps.flatten = .ok ((splitRows counts X).getD r []) := by
  refine ⟨_, build_prefixSums htp rfl hne, fun ps hlen hps => ?_⟩
  have hlen' := map_length_splitRows (le_of_eq hX.symm)
  have hps' : ps = (splitRows counts X).map (padTo (paddedLength tpSize ((splitRows counts X).map List.length))) := by
    refine eq_of_paddingAlignedTp (by simpa using hlen) fun r hr hp => ?_
    rw [hlen']
    have := hps r hp
    rwa [List.getD_eq_getElem?_getD, List.getElem?_eq_getElem hr, Option.getD_some] at this
  rw [hlen'] at hps'
  subst hps'
  exact ⟨paddingAlignedWp_planOf htp hX, fun r hr => unpaddingAlignedWp_planOf htp hX hr⟩

/-- Three packed tokens for two DP ranks of two and one tokens on a TP width of two: the windows are
    `[1, 2]` and `[3, 0]`, and each DP rank reads its own tokens back. -/
theorem paddingAlignedWp_paddingAlignedTp_two_one :
    0 < 2 ∧ [2, 1] ≠ [] ∧ [(1 : Int), 2, 3].length = [2, 1].sum ∧
      paddingAlignedWp (some (planOf 2 [2, 1])) [(1 : Int), 2, 3] = .ok [1, 2, 3, 0] ∧
      unpaddingAlignedWp (some (planOf 2 [2, 1])) 0 [(1 : Int), 2, 3, 0] = .ok [1, 2] ∧
      unpaddingAlignedWp (some (planOf 2 [2, 1])) 1 [(1 : Int), 2, 3, 0] = .ok [3] := by
  obtain ⟨m, hm, hround⟩ := paddingAlignedWp_paddingAlignedTp (show 0 < 2 by decide) [2, 1] (by decide)
    [(1 : Int), 2, 3] rfl
  obtain rfl := Except.ok.inj (hm.symm.trans (build_prefixSums (show 0 < 2 by decide) rfl (by decide)))
  have htp : ∀ r (hp : r < 2), paddingAlignedTp (some (planOf 2 [2, 1])) r
      ((splitRows [2, 1] [(1 : Int), 2, 3]).getD r []) = .ok ([[1, 2], [3, 0]].get ⟨r, hp⟩)
    | 0, _ => rfl
    | 1, _ => rfl
    | _ + 2, hp => absurd hp (by omega)
  obtain ⟨hwp, hunpad⟩ := hround [[1, 2], [3, 0]] rfl htp
  exact ⟨by decide, by decide, rfl, hwp, hunpad 0 (by decide), hunpad 1 (by decide)⟩

end DeepseekAscend
