import DeepseekAscend.Layer
import DeepseekAscend.Theorems.Sums
import DeepseekAscend.Theorems.RoundTrip

/-! The sharded branches of a prefill or eager pass with DP refine the all-reduce branches (§4.2, §5).

`post_attention_process` pads the rows of each DP rank to the window, reduce-scatters them over TP so
that TP rank `t` holds piece `t` of the window's sum, adds the matching piece of the residual, and
all-gathers the normed pieces over WP, where they lie window after window, for the keep-mask to drop the
pad rows. `post_moe_process` lays each WP rank's partial output over the packed global batch in the
windows, reduce-scatters it over WP, so that WP rank `r * tp_size + t` gets piece `t` of window `r` of the
sum, the same rows as its residual piece, and all-gathers the sum back for `unpadding_aligned_wp`. -/

namespace DeepseekAscend
open DPMetadataForPadding CustomDeepseekV2DecoderLayer

variable {α : Type}

/-! ### The exchanges on the grid -/

namespace Setup
variable (S : Setup) [AddCommMonoid α]

theorem reduceScatter_tp_padTo {M c : Nat} (hM : M = S.tpSize * c) {x : Local (List α)}
    (h : Nat → Nat → List α) (N : Nat → Nat) (hx : S.OkOn x fun r t => padTo M (h r t))
    (hh : ∀ r < S.dpSize, ∀ t < S.tpSize, (h r t).length = N r) (hN : ∀ r < S.dpSize, N r ≤ M) :
    ∃ y, S.collective .tp .reduceScatter x = .ok y ∧
      S.OkOn y fun r t => piece c t (padTo M (sumRows (N r) ((List.range S.tpSize).map (h r)))) := by
  have hlen : ∀ r < S.dpSize, ∀ t < S.tpSize, (padTo M (h r t)).length = M := fun r hr t ht =>
    length_padTo (by rw [hh r hr t ht]; exact hN r hr)
  have hc : M / S.tpSize = c := by rw [hM, Nat.mul_div_cancel_left c S.tpSize_pos]
  obtain ⟨y, hy, hv⟩ := S.reduceScatter_okOn .tp hx
    (fun r hr t ht m hm => by
      obtain ⟨hm1, hm2⟩ := S.mem_members hr ht hm
      rw [hlen _ hm1 _ hm2, hlen r hr t ht])
    (fun r hr t ht => by rw [hlen r hr t ht, size, hM]; exact Nat.mul_mod_right _ _)
  refine ⟨y, hy, fun r hr t ht => ?_⟩
  have hsum : sumRows M ((List.range S.tpSize).map fun t' => padTo M (h r t')) =
      padTo M (sumRows (N r) ((List.range S.tpSize).map (h r))) := by
    rw [← sumRows_padTo _ (hN r hr), List.map_map]
    · rfl
    · simp only [List.mem_map, List.mem_range]
      rintro _ ⟨t', ht', rfl⟩
      exact hh r hr t' ht'
  simp only [hv r hr t ht, hlen r hr t ht, index, size, map_members_tp, hsum, hc]
  rfl

theorem allGather_wp_pieces (c : Nat) (Y : Nat → List α) {x : Local (List α)}
    (hx : S.OkOn x fun r t => piece c t (Y r)) (hY : ∀ r < S.dpSize, (Y r).length = S.tpSize * c) :
    ∃ y, S.collective .wp .allGather x = .ok y ∧ S.OkOn y fun _ _ => ((List.range S.dpSize).map Y).flatten := by
  have hlen : ∀ r < S.dpSize, ∀ t < S.tpSize, (piece c t (Y r)).length = c := fun r hr t ht =>
    length_piece (by rw [hY r hr]; exact Nat.mul_le_mul_right c ht)
  obtain ⟨y, hy, hv⟩ := S.allGather_okOn .wp hx fun r hr t ht m hm => by
    obtain ⟨hm1, hm2⟩ := S.mem_members hr ht hm
    rw [hlen _ hm1 _ hm2, hlen r hr t ht]
  refine ⟨y, hy, fun r hr t ht => ?_⟩
  simp only [hv r hr t ht, map_members_wp, List.flatMap, List.flatten_flatten, List.map_map]
  congr 2
  refine List.map_congr_left fun r' hr' => ?_
  simp only [Function.comp_apply, flatten_pieces]
  exact List.take_of_length_le (by rw [hY r' (List.mem_range.mp hr')])

theorem reduceScatter_wp_windows {M c : Nat} (hM : M = S.tpSize * c) {counts : List Nat}
    (hdp : counts.length = S.dpSize) (hcM : ∀ n ∈ counts, n ≤ M) {x : Local (List α)} (G : Nat → Nat → List α)
    (hx : S.OkOn x fun r t => ((splitRows counts (G r t)).map (padTo M)).flatten)
    (hG : ∀ r < S.dpSize, ∀ t < S.tpSize, (G r t).length = counts.sum) :
    ∃ y, S.collective .wp .reduceScatter x = .ok y ∧ S.OkOn y fun r t =>
      piece c t (padTo M ((splitRows counts
        (sumRows counts.sum ((List.range S.dpSize).flatMap fun r => (List.range S.tpSize).map (G r)))).getD r [])) := by
  have hlen : ∀ r < S.dpSize, ∀ t < S.tpSize, (((splitRows counts (G r t)).map (padTo M)).flatten).length =
      counts.length * M := fun _ _ _ _ => length_windows hcM _
  obtain ⟨y, hy, hv⟩ := S.reduceScatter_okOn .wp hx
    (fun r hr t ht m hm => by
      obtain ⟨hm1, hm2⟩ := S.mem_members hr ht hm
      rw [hlen _ hm1 _ hm2, hlen r hr t ht])
    (fun r hr t ht => by
      rw [hlen r hr t ht, size, hdp, hM, ← Nat.mul_assoc]
      exact Nat.mul_mod_right _ _)
  refine ⟨y, hy, fun r hr t ht => ?_⟩
  have hmem : ∀ X ∈ (List.range S.dpSize).flatMap (fun r => (List.range S.tpSize).map (G r)), counts.sum ≤ X.length := by
    simp only [List.mem_flatMap, List.mem_map, List.mem_range]
    rintro _ ⟨r', hr', t', ht', rfl⟩
    exact le_of_eq (hG r' hr' t' ht').symm
  have hwin : ∀ X ∈ (splitRows counts (sumRows counts.sum ((List.range S.dpSize).flatMap fun r =>
      (List.range S.tpSize).map (G r)))).map (padTo M), X.length = S.tpSize * c := by
    simp only [List.mem_map]
    rintro _ ⟨b, hb, rfl⟩
    rw [← hM]
    exact length_padTo (length_le_of_mem_splitRows hcM hb)
  have hr' : r < ((splitRows counts (sumRows counts.sum ((List.range S.dpSize).flatMap fun r =>
      (List.range S.tpSize).map (G r)))).map (padTo M)).length := by simpa [hdp] using hr
  have hn : counts.length * M / (S.dpSize * S.tpSize) = c := by
    rw [hdp, hM, ← Nat.mul_assoc, Nat.mul_div_cancel_left c (Nat.mul_pos S.dpSize_pos S.tpSize_pos)]
  have hsum : sumRows (counts.length * M) ((List.range S.dpSize).flatMap fun r' => (List.range S.tpSize).map
      fun t' => ((splitRows counts (G r' t')).map (padTo M)).flatten) =
      ((splitRows counts (sumRows counts.sum ((List.range S.dpSize).flatMap fun r =>
        (List.range S.tpSize).map (G r)))).map (padTo M)).flatten := by
    rw [← sumRows_windows M counts _ hcM hmem]
    simp [List.map_flatMap, Function.comp_def]
  simp only [hv r hr t ht, hlen r hr t ht, index, size, map_members_wp, hn, hsum]
  refine congrArg Except.ok ((piece_flatten hwin ht hr').trans ?_)
  rw [List.getElem_map, List.getD_eq_getElem?_getD, List.getElem?_eq_getElem (by simpa using hr'), Option.getD_some]

end Setup

/-! ### Local steps of the sharded branches -/

theorem unpaddingAlignedTp_windows {tpSize : Nat} (counts : List Nat) (real pad : Nat → List α)
    (hreal : ∀ r < counts.length, (real r).length = counts.getD r 0)
    (hpad : ∀ r < counts.length, (real r).length + (pad r).length = paddedLength tpSize counts) :
    unpaddingAlignedTp (some (planOf tpSize counts)) ((List.range counts.length).map fun r => real r ++ pad r).flatten =
      .ok ((List.range counts.length).map real).flatten := by
  have hcounts : ((List.range counts.length).map fun r => (real r, pad r)).map (fun b => b.1.length) = counts := by
    rw [List.map_map]
    refine (map_range_eq counts _ id fun r hr => ?_).trans (List.map_id _)
    simp [hreal r hr, List.getD_eq_getElem?_getD, List.getElem?_eq_getElem hr]
  have h := maskSelect_keepMask (paddedLength tpSize counts) ((List.range counts.length).map fun r => (real r, pad r))
    (by simp only [List.mem_map, List.mem_range]; rintro _ ⟨r, hr, rfl⟩; exact hpad r hr)
  rw [hcounts] at h
  simpa [unpaddingAlignedTp, List.map_map, Function.comp_def] using h

theorem sliceResidual_piece (L : CustomDeepseekV2DecoderLayer) (S : Setup) [AddCommMonoid α] {M c t : Nat}
    (hM : M = S.tpSize * c) {h x : List α} (hh : h.length = c) (hx : x.length ≤ M) :
    L.sliceResidual S t h (if L.layerIdx = L.config.firstKDenseReplace then x else piece c t (padTo M x)) =
      .ok (piece c t (padTo M x)) := by
  by_cases hfk : L.layerIdx = L.config.firstKDenseReplace
  · have hpad : ((c * S.tpSize : Nat) : Int) - (x.length : Int) = ((M - x.length : Nat) : Int) := by
      rw [hM, Nat.mul_comm S.tpSize c] at hx ⊢
      omega
    simp only [sliceResidual, hfk, if_true, hh, hpad, padRows_natCast, ok_bind, pure_eq_ok, pySlice_natCast,
      Nat.add_sub_cancel_left]
    rfl
  · simp [sliceResidual, hfk]

/-! ### The sharded post-attention branch -/

section PostAttention
variable [AddCommMonoid α]

/-- `y_r = Σ_t h_{r,t} + x_r`, row by row: the stream of DP rank `r` after the attention of its TP ranks. -/
def attnStream (tpSize : Nat) (h : Nat → Nat → List α) (x : Nat → List α) (r : Nat) : List α :=
  List.zipWith (· + ·) (sumRows (x r).length ((List.range tpSize).map (h r))) (x r)

@[simp] theorem length_attnStream (tpSize : Nat) (h : Nat → Nat → List α) (x : Nat → List α) (r : Nat) :
    (attnStream tpSize h x r).length = (x r).length := by
  simp [attnStream]

theorem postAttentionProcess_planOf (L : CustomDeepseekV2DecoderLayer) (S : Setup) (ops : LayerOps α)
    {counts : List Nat} (hdp : counts.length = S.dpSize) (hdp1 : 1 < S.dpSize)
    (hfk : L.config.firstKDenseReplace ≤ L.layerIdx) {isPrefill : Bool}
    (hmode : (isPrefill || !S.enableGraphMode) = true) {h : Nat → Nat → List α} {x : Nat → List α}
    (hh : ∀ r < S.dpSize, ∀ t < S.tpSize, (h r t).length = counts.getD r 0)
    (hx : ∀ r < S.dpSize, (x r).length = counts.getD r 0) {hidden residual : Local (List α)} (hhidden : S.OkOn hidden h)
    (hresidual : S.OkOn residual fun r t => if L.layerIdx = L.config.firstKDenseReplace then x r
      else piece (paddedLength S.tpSize counts / S.tpSize) t (padTo (paddedLength S.tpSize counts) (x r))) :
    ∃ z, L.postAttentionProcess S ops (some (planOf S.tpSize counts)) hidden residual isPrefill = .ok z ∧
      S.OkOn z fun r t =>
        (((List.range S.dpSize).map fun r' => (attnStream S.tpSize h x r').map ops.postAttentionLayernorm).flatten,
          piece (paddedLength S.tpSize counts / S.tpSize) t
            (padTo (paddedLength S.tpSize counts) (attnStream S.tpSize h x r))) := by
  have htp := S.tpSize_pos
  obtain ⟨c, hM⟩ := dvd_paddedLength S.tpSize counts
  have hc : paddedLength S.tpSize counts / S.tpSize = c := by rw [hM, Nat.mul_div_cancel_left c htp]
  rw [hc] at hresidual ⊢
  have hN : ∀ r < S.dpSize, counts.getD r 0 ≤ paddedLength S.tpSize counts := fun r hr =>
    le_paddedLength htp (by rw [List.getD_eq_getElem?_getD, List.getElem?_eq_getElem (hdp ▸ hr)]; exact List.getElem_mem _)
  -- each rank pads its rows to the window
  have hpad : S.OkOn (Local.bind hidden fun r _ h =>
      paddingAlignedTp (some (planOf S.tpSize counts)) (S.dpRank r) h) fun r t => padTo (paddedLength S.tpSize counts) (h r t) :=
    hhidden.bind fun r hr t ht => by
      rw [S.dpRank_of_one_lt hdp1, paddingAlignedTp_planOf _ (hdp ▸ hr), padTo, hh r hr t ht,
        List.getD_eq_getElem?_getD, List.getElem?_eq_getElem (hdp ▸ hr), Option.getD_some]
  -- each rank adds its piece of the residual to its piece of the sum, and norms it
  have hnorm : ∀ r < S.dpSize, ∀ t < S.tpSize,
      (L.sliceResidual S t
          (piece c t (padTo (paddedLength S.tpSize counts) (sumRows (counts.getD r 0) ((List.range S.tpSize).map (h r)))))
          (if L.layerIdx = L.config.firstKDenseReplace then x r
            else piece c t (padTo (paddedLength S.tpSize counts) (x r))) >>=
        addRmsNorm ops.postAttentionLayernorm
          (piece c t (padTo (paddedLength S.tpSize counts) (sumRows (counts.getD r 0) ((List.range S.tpSize).map (h r)))))) =
      .ok (piece c t ((padTo (paddedLength S.tpSize counts) (attnStream S.tpSize h x r)).map ops.postAttentionLayernorm),
        piece c t (padTo (paddedLength S.tpSize counts) (attnStream S.tpSize h x r))) := fun r hr t ht => by
    have hpiece : ∀ y : List α, y.length ≤ paddedLength S.tpSize counts →
        (piece c t (padTo (paddedLength S.tpSize counts) y)).length = c := fun y hy =>
      length_piece (by rw [length_padTo hy, hM]; exact Nat.mul_le_mul_right c ht)
    have hA : (sumRows (counts.getD r 0) ((List.range S.tpSize).map (h r))).length ≤ paddedLength S.tpSize counts := by
      simpa using hN r hr
    rw [sliceResidual_piece L S hM (hpiece _ hA) (hx r hr ▸ hN r hr), ok_bind,
      addRmsNorm_of_length_eq _ ((hpiece _ hA).trans (hpiece _ (hx r hr ▸ hN r hr)).symm), zipWith_piece,
      zipWith_padTo _ (by simp [hx r hr]), map_piece, attnStream, hx r hr]
  -- the keep-mask drops the pad rows of every window
  have hunpad : unpaddingAlignedTp (some (planOf S.tpSize counts)) ((List.range S.dpSize).map fun r =>
      (padTo (paddedLength S.tpSize counts) (attnStream S.tpSize h x r)).map ops.postAttentionLayernorm).flatten =
      .ok ((List.range S.dpSize).map fun r => (attnStream S.tpSize h x r).map ops.postAttentionLayernorm).flatten := by
    rw [← hdp]
    simp only [map_padTo]
    exact unpaddingAlignedTp_windows counts _ _ (fun r hr => by simp [hx r (hdp ▸ hr)])
      (fun r hr => by
        have := hx r (hdp ▸ hr) ▸ hN r (hdp ▸ hr)
        simp only [List.length_map, List.length_replicate, length_attnStream]
        omega)
  rw [postAttentionProcess, if_pos hmode, if_neg (by simp; omega)]
  refine exists_ok_bind (S.reduceScatter_tp_padTo hM h _ hpad hh hN) fun y1 hv1 => ?_
  simp only []
  refine exists_ok_bind (S.allGather_wp_pieces c
    (fun r => (padTo (paddedLength S.tpSize counts) (attnStream S.tpSize h x r)).map ops.postAttentionLayernorm)
    ((hv1.zip hresidual hnorm).map fun _ _ => Prod.fst) ?_)
    fun y2 hv2 => ⟨_, rfl, (Setup.OkOn.bind hv2 fun _ _ _ _ => hunpad : S.OkOn _ fun _ _ =>
      ((List.range S.dpSize).map fun r => (attnStream S.tpSize h x r).map ops.postAttentionLayernorm).flatten).zip
      (hv1.zip hresidual hnorm) ?_⟩
  · intro r hr
    rw [List.length_map, length_padTo (by simpa [hx r hr] using hN r hr), hM]
  · intro r hr t ht
    rfl

/-- With DP, from `first_k_dense_replace` on, `post_attention_process` of a prefill or eager pass gives
    every rank the normed streams of all DP ranks in rank order, and rank `(r, t)` piece `t` of its own
    stream padded to the window: what the all-reduce branch gives, gathered over DP. -/
theorem postAttentionProcess_sharded (L : CustomDeepseekV2DecoderLayer) (S : Setup) (ops : LayerOps α)
    (counts : List Nat) (hdp : counts.length = S.dpSize) (hdp1 : 1 < S.dpSize)
    (hfk : L.config.firstKDenseReplace ≤ L.layerIdx) (isPrefill : Bool)
    (hmode : (isPrefill || !S.enableGraphMode) = true) (h : Nat → Nat → List α) (x : Nat → List α)
    (hh : ∀ r < S.dpSize, ∀ t < S.tpSize, (h r t).length = counts.getD r 0)
    (hx : ∀ r < S.dpSize, (x r).length = counts.getD r 0) :
    ∃ m, build S.dpSize S.tpSize (prefixSums (counts.map (↑))) = .ok m ∧
      ∀ hidden residual : Local (List α), S.OkOn hidden h →
        S.OkOn residual (fun r t => if L.layerIdx = L.config.firstKDenseReplace then x r
          else piece (m.maxLength.toNat / S.tpSize) t (padTo m.maxLength.toNat (x r))) →
        ∃ z, L.postAttentionProcess S ops (some m) hidden residual isPrefill = .ok z ∧
          S.OkOn z fun r t =>
            (((List.range S.dpSize).map fun r' => (attnStream S.tpSize h x r').map ops.postAttentionLayernorm).flatten,
              piece (m.maxLength.toNat / S.tpSize) t (padTo m.maxLength.toNat (attnStream S.tpSize h x r))) := by
  have hne : counts ≠ [] := by rintro rfl; simp at hdp; omega
  exact ⟨_, build_prefixSums S.tpSize_pos hdp hne, fun _ _ hhidden hresidual =>
    postAttentionProcess_planOf L S ops hdp hdp1 hfk hmode hh hx hhidden hresidual⟩

def twoByTwo : Setup := ⟨2, 2, by decide, by decide, false, false, false, false, 1⟩

/-- Layer 0 of a two-layer model whose layers are all MoE. -/
def firstMoeLayer : CustomDeepseekV2DecoderLayer := ⟨⟨2, 0, 1, some 2, some 1, 1, "silu", 2, none⟩, 0⟩

def identityOps : LayerOps Int :=
  ⟨id, id, fun _ _ x => x, fun _ _ _ => rfl, fun _ _ => id, fun _ _ => id, fun _ _ x => x, fun _ _ _ => rfl⟩

def twoOne (v : Int) (r : Nat) : List Int := List.replicate ([2, 1].getD r 0) v

/-- Two and one tokens on two DP ranks of two TP ranks, at `first_k_dense_replace`, each TP rank's attention
    output all ones over a residual of zeros: every rank holds the three normed rows of twos, and its piece of
    its own stream, the pad row on rank `(1, 1)`. -/
theorem postAttentionProcess_sharded_two_one :
    [2, 1].length = twoByTwo.dpSize ∧ 1 < twoByTwo.dpSize ∧
      firstMoeLayer.config.firstKDenseReplace ≤ firstMoeLayer.layerIdx ∧ (true || !twoByTwo.enableGraphMode) = true ∧
      ∃ z, firstMoeLayer.postAttentionProcess twoByTwo identityOps (some (planOf 2 [2, 1]))
          (fun r _ => .ok (twoOne 1 r)) (fun r _ => .ok (twoOne 0 r)) true = .ok z ∧
        twoByTwo.OkOn z fun r t => ([2, 2, 2], if r = 1 ∧ t = 1 then [0] else [2]) := by
  obtain ⟨m, hm, hpost⟩ := postAttentionProcess_sharded firstMoeLayer twoByTwo identityOps [2, 1] rfl (by decide)
    (le_refl _) true rfl (fun r _ => twoOne 1 r) (twoOne 0) (fun _ _ _ _ => List.length_replicate _ _)
    fun _ _ => List.length_replicate _ _
  obtain rfl := Except.ok.inj (hm.symm.trans (build_prefixSums (by decide) rfl (by decide)))
  obtain ⟨z, hz, hv⟩ := hpost _ _ (fun _ _ _ _ => rfl) fun _ _ _ _ => rfl
  exact ⟨rfl, by decide, le_refl _, rfl, z, hz, hv.congr (by decide)⟩

end PostAttention

/-! ### The sharded post-MoE branch -/

section PostMoe
variable [AddCommMonoid α]

/-- `Z_r`: DP rank `r`'s block of the packed sum, over every WP rank in WP order, of
    `shared_output + hidden_states`. -/
def moeBlock (S : Setup) (counts : List Nat) (s g : Nat → Nat → List α) (r : Nat) : List α :=
  (splitRows counts (sumRows counts.sum (S.ranks.map fun w => List.zipWith (· + ·) (s w.1 w.2) (g w.1 w.2)))).getD r []

theorem unpaddingAlignedWp_windows {tpSize : Nat} (htp : 0 < tpSize) (counts : List Nat) (out : Nat → List α)
    (hout : ∀ r < counts.length, (out r).length = counts.getD r 0) {r : Nat} (hr : r < counts.length) :
    unpaddingAlignedWp (some (planOf tpSize counts)) r
      ((List.range counts.length).map fun r' => padTo (paddedLength tpSize counts) (out r')).flatten = .ok (out r) := by
  have hmap : ((List.range counts.length).map out).map List.length = counts := by
    rw [List.map_map]
    refine (map_range_eq counts _ id fun r hr => ?_).trans (List.map_id _)
    simp [hout r hr, List.getD_eq_getElem?_getD, List.getElem?_eq_getElem hr]
  have h := unpaddingAlignedWp_planOf htp (by rw [List.length_flatten, hmap]) hr
  rw [splitRows_flatten hmap, List.map_map] at h
  simpa [Function.comp_def, List.getD_eq_getElem?_getD, hr] using h

theorem postMoeProcess_planOf (L : CustomDeepseekV2DecoderLayer) (S : Setup) (ops : LayerOps α)
    {counts : List Nat} (hdp : counts.length = S.dpSize) (hdp1 : 1 < S.dpSize) {isPrefill : Bool}
    (hmode : (isPrefill || !S.enableGraphMode) = true) {s g : Nat → Nat → List α} {y : Nat → List α}
    (hs : ∀ r < S.dpSize, ∀ t < S.tpSize, (s r t).length = counts.sum)
    (hg : ∀ r < S.dpSize, ∀ t < S.tpSize, (g r t).length = counts.sum)
    (hy : ∀ r < S.dpSize, (y r).length = counts.getD r 0) {shared : Local (Option (List α))}
    {hidden residual : Local (List α)} (hshared : S.OkOn shared fun r t => some (s r t)) (hhidden : S.OkOn hidden g)
    (hresidual : S.OkOn residual fun r t =>
      piece (paddedLength S.tpSize counts / S.tpSize) t (padTo (paddedLength S.tpSize counts) (y r))) :
    ∃ z, L.postMoeProcess S ops (some (planOf S.tpSize counts)) shared hidden residual isPrefill = .ok z ∧
      S.OkOn z fun r t =>
        (List.zipWith (· + ·) (y r) (moeBlock S counts s g r),
          if (L.layerIdx : Int) = L.config.numHiddenLayers - 1 then none
          else some (piece (paddedLength S.tpSize counts / S.tpSize) t
            (padTo (paddedLength S.tpSize counts) (List.zipWith (· + ·) (y r) (moeBlock S counts s g r))))) := by
  have htp := S.tpSize_pos
  obtain ⟨c, hM⟩ := dvd_paddedLength S.tpSize counts
  have hc : paddedLength S.tpSize counts / S.tpSize = c := by rw [hM, Nat.mul_div_cancel_left c htp]
  rw [hc] at hresidual ⊢
  have hcM : ∀ n ∈ counts, n ≤ paddedLength S.tpSize counts := fun n hn => le_paddedLength htp hn
  have hN : ∀ r < S.dpSize, counts.getD r 0 ≤ paddedLength S.tpSize counts := fun r hr =>
    hcM _ (by rw [List.getD_eq_getElem?_getD, List.getElem?_eq_getElem (hdp ▸ hr)]; exact List.getElem_mem _)
  have hZ : ∀ r, (moeBlock S counts s g r).length = counts.getD r 0 := fun r =>
    length_getD_splitRows _ (by simp) r
  have hblock : ∀ r, (splitRows counts (sumRows counts.sum ((List.range S.dpSize).flatMap fun r =>
      (List.range S.tpSize).map fun t => List.zipWith (· + ·) (s r t) (g r t)))).getD r [] = moeBlock S counts s g r :=
    fun r => by rw [moeBlock, show S.ranks = S.members .wp 0 0 from rfl, S.map_members_wp]
  -- every rank adds its shared output to its MoE output and lays the sum in the windows
  have hwin : S.OkOn (Local.bind (Local.zip shared hidden fun _ _ s h => addOpt s h) fun _ _ h =>
      paddingAlignedWp (some (planOf S.tpSize counts)) h)
      fun r t => ((splitRows counts (List.zipWith (· + ·) (s r t) (g r t))).map
        (padTo (paddedLength S.tpSize counts))).flatten :=
    (Setup.OkOn.zip hshared hhidden (fun r hr t ht =>
      add_of_length_eq ((hs r hr t ht).trans (hg r hr t ht).symm)) :
        S.OkOn _ fun r t => List.zipWith (· + ·) (s r t) (g r t)).bind
      fun r hr t ht => paddingAlignedWp_planOf htp (by simp [hs r hr t ht, hg r hr t ht])
  -- each rank adds its residual piece to its piece of the sum
  have hadd : ∀ r < S.dpSize, ∀ t < S.tpSize,
      add (piece c t (padTo (paddedLength S.tpSize counts) (moeBlock S counts s g r)))
        (piece c t (padTo (paddedLength S.tpSize counts) (y r))) =
      .ok (piece c t (padTo (paddedLength S.tpSize counts) (List.zipWith (· + ·) (y r) (moeBlock S counts s g r)))) :=
    fun r hr t ht => by
      have hpiece : ∀ x : List α, x.length ≤ paddedLength S.tpSize counts →
          (piece c t (padTo (paddedLength S.tpSize counts) x)).length = c := fun x hx =>
        length_piece (by rw [length_padTo hx, hM]; exact Nat.mul_le_mul_right c ht)
      rw [add_of_length_eq ((hpiece _ (hZ r ▸ hN r hr)).trans (hpiece _ (hy r hr ▸ hN r hr)).symm), zipWith_piece,
        zipWith_padTo _ ((hZ r).trans (hy r hr).symm), List.zipWith_comm]
      simp only [add_comm]
  have hunpad : ∀ r < S.dpSize, ∀ _ < S.tpSize, unpaddingAlignedWp (some (planOf S.tpSize counts)) (S.dpRank r)
      ((List.range S.dpSize).map fun r' => padTo (paddedLength S.tpSize counts)
        (List.zipWith (· + ·) (y r') (moeBlock S counts s g r'))).flatten =
      .ok (List.zipWith (· + ·) (y r) (moeBlock S counts s g r)) := fun r hr _ _ => by
    rw [S.dpRank_of_one_lt hdp1, ← hdp]
    exact unpaddingAlignedWp_windows htp counts _ (fun r' hr' => by simp [hy r' (hdp ▸ hr'), hZ]) (hdp ▸ hr)
  rw [postMoeProcess, if_pos hmode]
  simp only []
  rw [if_neg (by omega)]
  refine exists_ok_bind (S.reduceScatter_wp_windows hM hdp hcM _ hwin fun r hr t ht => by
    simp [hs r hr t ht, hg r hr t ht]) fun y1 hv1 => ?_
  simp only [hblock] at hv1
  refine exists_ok_bind (S.allGather_wp_pieces c
    (fun r => padTo (paddedLength S.tpSize counts) (List.zipWith (· + ·) (y r) (moeBlock S counts s g r)))
    (hv1.zip hresidual hadd) ?_)
    fun y2 hv2 => ⟨_, rfl, (Setup.OkOn.bind hv2 hunpad).zip (hv1.zip hresidual hadd) ?_⟩
  · intro r hr
    rw [length_padTo (by simpa [hy r hr, hZ] using hN r hr), hM]
  · intro r hr t ht
    rfl

/-- With DP, `post_moe_process` of a prefill or eager pass gives rank `(r, t)` its stream plus its block of
    the sum over every WP rank of the shared and routed outputs, and piece `t` of that padded to the window
    as the residual, or no residual at the model's last layer: what an all-reduce and the residual add
    give, kept sharded. -/
theorem postMoeProcess_sharded (L : CustomDeepseekV2DecoderLayer) (S : Setup) (ops : LayerOps α)
    (counts : List Nat) (hdp : counts.length = S.dpSize) (hdp1 : 1 < S.dpSize) (isPrefill : Bool)
    (hmode : (isPrefill || !S.enableGraphMode) = true) (s g : Nat → Nat → List α) (y : Nat → List α)
    (hs : ∀ r < S.dpSize, ∀ t < S.tpSize, (s r t).length = counts.sum)
    (hg : ∀ r < S.dpSize, ∀ t < S.tpSize, (g r t).length = counts.sum)
    (hy : ∀ r < S.dpSize, (y r).length = counts.getD r 0) :
    ∃ m, build S.dpSize S.tpSize (prefixSums (counts.map (↑))) = .ok m ∧
      ∀ (shared : Local (Option (List α))) (hidden residual : Local (List α)),
        S.OkOn shared (fun r t => some (s r t)) → S.OkOn hidden g →
        S.OkOn residual (fun r t => piece (m.maxLength.toNat / S.tpSize) t (padTo m.maxLength.toNat (y r))) →
        ∃ z, L.postMoeProcess S ops (some m) shared hidden residual isPrefill = .ok z ∧
          S.OkOn z fun r t =>
            (List.zipWith (· + ·) (y r) (moeBlock S counts s g r),
              if (L.layerIdx : Int) = L.config.numHiddenLayers - 1 then none
              else some (piece (m.maxLength.toNat / S.tpSize) t
                (padTo m.maxLength.toNat (List.zipWith (· + ·) (y r) (moeBlock S counts s g r))))) := by
  have hne : counts ≠ [] := by rintro rfl; simp at hdp; omega
  exact ⟨_, build_prefixSums S.tpSize_pos hdp hne, fun _ _ _ hshared hhidden hresidual =>
    postMoeProcess_planOf L S ops hdp hdp1 hmode hs hg hy hshared hhidden hresidual⟩

/-- Two and one tokens on two DP ranks of two TP ranks, every WP rank's shared and routed outputs all ones
    over a stream of zeros: DP rank `r` gets its block of eights, and its piece of that as the residual, the pad
    row on rank `(1, 1)`. -/
theorem postMoeProcess_sharded_two_one :
    [2, 1].length = twoByTwo.dpSize ∧ 1 < twoByTwo.dpSize ∧ (true || !twoByTwo.enableGraphMode) = true ∧
      ∃ z, firstMoeLayer.postMoeProcess twoByTwo identityOps (some (planOf 2 [2, 1]))
          (fun _ _ => .ok (some [1, 1, 1])) (fun _ _ => .ok [1, 1, 1]) (fun _ _ => .ok [0]) true = .ok z ∧
        twoByTwo.OkOn z fun r t => (twoOne 8 r, some (if r = 1 ∧ t = 1 then [0] else [8])) := by
  obtain ⟨m, hm, hpost⟩ := postMoeProcess_sharded firstMoeLayer twoByTwo identityOps [2, 1] rfl (by decide) true rfl
    (fun _ _ => [1, 1, 1]) (fun _ _ => [1, 1, 1]) (twoOne 0) (fun _ _ _ _ => rfl) (fun _ _ _ _ => rfl)
    fun _ _ => List.length_replicate _ _
  obtain rfl := Except.ok.inj (hm.symm.trans (build_prefixSums (by decide) rfl (by decide)))
  have hres : ∀ r < 2, ∀ t < 2, [(0 : Int)] = piece 1 t (padTo 2 (twoOne 0 r)) := by decide
  obtain ⟨z, hz, hv⟩ := hpost _ _ _ (fun _ _ _ _ => rfl) (fun _ _ _ _ => rfl)
    fun r hr t ht => congrArg Except.ok (hres r hr t ht)
  exact ⟨rfl, by decide, rfl, z, hz, hv.congr (by decide)⟩

end PostMoe

end DeepseekAscend
