import DeepseekAscend.Theorems.Sharded
import Mathlib.Algebra.Algebra.Defs
import Mathlib.Algebra.Ring.Rat

/-! What one decoder layer does to the residual stream (§4.2), without the fp16 guard, when every TP rank
of a DP rank holds the stream `X r` of that rank's tokens: in a prefill or eager pass, and in a graph-mode
decode pass without DP or MC2.

Write `y_r = X_r + Σ_t A_{r,t}(norm X_r)` for the stream after the attention. A dense layer whose
post-attention branch gives every TP rank the whole stream returns `y_r + Σ_t MLP_{r,t}(norm y_r)` and no
residual: the law of the residual stream. A MoE layer sums, over the WP group, `S + (E + S)` of the shared
output `S` and the scaled routed output `E` of every WP rank: `forward` adds the shared output to the MoE
output and `post_moe_process` adds it again. In a prefill or eager pass without DP that sum is all the
layer returns, so the stream `y_r` is lost; a graph-mode decode pass adds `y_r` back (`forward_graph_eager`);
with DP the sharded branches add it back, and the layer returns `y_r` plus rank `r`'s block of the sum over
the packed global batch. -/

namespace DeepseekAscend
open DPMetadataForPadding CustomDeepseekV2DecoderLayer

variable {α : Type}

/-- The stream of DP rank `r` after the attention of its TP ranks, from the stream `X` before it. -/
def LayerOps.stream [AddCommMonoid α] (ops : LayerOps α) (tpSize : Nat) (X : Nat → List α) (r : Nat) : List α :=
  attnStream tpSize (fun r t => ops.selfAttn r t ((X r).map ops.inputLayernorm)) X r

@[simp] theorem LayerOps.length_stream [AddCommMonoid α] (ops : LayerOps α) (tpSize : Nat) (X : Nat → List α)
    (r : Nat) : (ops.stream tpSize X r).length = (X r).length := by
  simp [LayerOps.stream]

/-- What WP rank `(r, t)` adds into the post-MoE reduction from the normed rows `B`: its shared output,
    plus its scaled routed output with the shared output added once more. -/
def LayerOps.moeOut [AddCommMonoid α] [SMul ℚ α] (ops : LayerOps α) (s : ℚ) (B : List α) (r t : Nat) : List α :=
  List.zipWith (· + ·) (B.map (ops.sharedExperts r t))
    (List.zipWith (· + ·) ((ops.experts r t B).map (s • ·)) (B.map (ops.sharedExperts r t)))

@[simp] theorem LayerOps.length_moeOut [AddCommMonoid α] [SMul ℚ α] (ops : LayerOps α) (s : ℚ) (B : List α)
    (r t : Nat) : (ops.moeOut s B r t).length = B.length := by
  simp [LayerOps.moeOut, ops.experts_length]

/-- The stream of DP rank `r` after a dense layer: the stream after the attention plus the TP sum of the
    partial MLPs of its normed rows. -/
def LayerOps.denseStream [AddCommMonoid α] (ops : LayerOps α) (tpSize : Nat) (X : Nat → List α) (r : Nat) : List α :=
  List.zipWith (· + ·) (ops.stream tpSize X r) (sumRows (X r).length ((List.range tpSize).map fun t =>
    ((ops.stream tpSize X r).map ops.postAttentionLayernorm).map (ops.mlp r t)))

/-- Without DP, the stream after a MoE layer: the WP sum of what every rank adds from the normed stream. -/
def LayerOps.moeStream [AddCommMonoid α] [SMul ℚ α] (ops : LayerOps α) (S : Setup) (s : ℚ) (X : Nat → List α) :
    List α :=
  sumRows (X 0).length
    (S.ranks.map fun w => ops.moeOut s ((ops.stream S.tpSize X w.1).map ops.postAttentionLayernorm) w.1 w.2)

/-- The normed streams of all DP ranks in rank order: the packed batch that a sharded MoE layer reads. -/
def LayerOps.packed [AddCommMonoid α] (ops : LayerOps α) (S : Setup) (X : Nat → List α) : List α :=
  ((List.range S.dpSize).map fun r => (ops.stream S.tpSize X r).map ops.postAttentionLayernorm).flatten

/-- With DP, the stream of DP rank `r` after a MoE layer: its stream after the attention plus its block of
    the WP sum of what every rank adds from the packed batch. -/
def LayerOps.moeShardedStream [AddCommMonoid α] [SMul ℚ α] (ops : LayerOps α) (S : Setup) (s : ℚ)
    (counts : List Nat) (X : Nat → List α) (r : Nat) : List α :=
  List.zipWith (· + ·) (ops.stream S.tpSize X r)
    ((splitRows counts (sumRows counts.sum (S.ranks.map fun w => ops.moeOut s (ops.packed S X) w.1 w.2))).getD r [])

@[simp] theorem LayerOps.length_denseStream [AddCommMonoid α] (ops : LayerOps α) (tpSize : Nat) (X : Nat → List α)
    (r : Nat) : (ops.denseStream tpSize X r).length = (X r).length := by
  simp [LayerOps.denseStream]

@[simp] theorem LayerOps.length_moeStream [AddCommMonoid α] [SMul ℚ α] (ops : LayerOps α) (S : Setup) (s : ℚ)
    (X : Nat → List α) : (ops.moeStream S s X).length = (X 0).length :=
  length_sumRows _ _

theorem LayerOps.length_packed [AddCommMonoid α] (ops : LayerOps α) (S : Setup) {counts : List Nat}
    (hdp : counts.length = S.dpSize) {X : Nat → List α} (hX : ∀ r < S.dpSize, (X r).length = counts.getD r 0) :
    (ops.packed S X).length = counts.sum := by
  rw [LayerOps.packed, List.length_flatten, List.map_map, ← hdp,
    map_range_eq counts _ id fun r hr => by simp [hX r (hdp ▸ hr), List.getD_eq_getElem?_getD, hr], List.map_id]

theorem LayerOps.length_moeShardedStream [AddCommMonoid α] [SMul ℚ α] (ops : LayerOps α) (S : Setup) (s : ℚ)
    {counts : List Nat} {X : Nat → List α}
    (hX : ∀ r < S.dpSize, (X r).length = counts.getD r 0) {r : Nat} (hr : r < S.dpSize) :
    (ops.moeShardedStream S s counts X r).length = counts.getD r 0 := by
  rw [LayerOps.moeShardedStream, List.length_zipWith, length_stream, hX r hr, length_getD_splitRows _ (by simp) r,
    Nat.min_self]

/-! ### The parts of a layer -/

theorem firstKDenseReplace_le_of_isMoe {L : CustomDeepseekV2DecoderLayer} (h : L.isMoe = true) :
    L.config.firstKDenseReplace ≤ L.layerIdx := by
  simp only [isMoe, Bool.and_eq_true, decide_eq_true_eq] at h
  exact h.1.2

theorem attend_of_isFp16_false [SMul ℚ α] (L : CustomDeepseekV2DecoderLayer) (S : Setup) (ops : LayerOps α)
    (hfp : S.isFp16 = false) (r t : Nat) (x : List α × Option (List α)) :
    L.attend S ops r t x = .ok (ops.selfAttn r t (x.1.map ops.inputLayernorm), x.2.getD x.1) := by
  simp [attend, hfp]

theorem attend_okOn [SMul ℚ α] (S : Setup) (ops : LayerOps α) (L : CustomDeepseekV2DecoderLayer) (hfp : S.isFp16 = false)
    {x : Local (List α × Option (List α))} {X : Nat → List α} {R : Nat → Nat → Option (List α)}
    (hx : S.OkOn x fun r t => (X r, R r t)) :
    S.OkOn (x.bind (L.attend S ops)) fun r t => (ops.selfAttn r t ((X r).map ops.inputLayernorm), (R r t).getD (X r)) :=
  hx.bind fun r _ t _ => attend_of_isFp16_false L S ops hfp r t _

theorem moeForward_okOn [SMul ℚ α] (S : Setup) (ops : LayerOps α) (config : PretrainedConfig) {isPrefill : Bool}
    (hchunk : (S.enableMc2 && !isPrefill && 1 < S.tpSize) = false) {h : Local (List α)} {H : Nat → Nat → List α}
    (hh : S.OkOn h H) :
    S.OkOn (CustomDeepseekV2MoE.forward S ops config isPrefill h) fun r t =>
      (ops.experts r t (H r t)).map (config.routedScalingFactor • ·) :=
  hh.bind fun r _ t _ => by simp [CustomDeepseekV2MoE.forward, hchunk]

section Parts
variable [AddCommMonoid α] (S : Setup) (ops : LayerOps α)

theorem sharedExpertForward_false (x : Local (List α)) :
    CustomDeepseekV2SharedExpertMLP.forward S ops false x = .ok (x.map fun r t x => x.map (ops.sharedExperts r t)) := by
  simp [CustomDeepseekV2SharedExpertMLP.forward]

theorem tpAllReduce_okOn {x : Local (List α)} {v : Nat → Nat → List α} {n : Nat → Nat} (hx : S.OkOn x v)
    (hlen : ∀ r < S.dpSize, ∀ t < S.tpSize, (v r t).length = n r) :
    ∃ y, (if 1 < S.tpSize then S.collective .tp .allReduce x else pure x) = .ok y ∧
      S.OkOn y fun r _ => sumRows (n r) ((List.range S.tpSize).map (v r)) := by
  by_cases htp : 1 < S.tpSize
  · obtain ⟨y, h, hv⟩ := S.allReduce_okOn .tp hx fun r hr t ht m hm => by
      obtain ⟨-, hm2⟩ := S.mem_members hr ht hm
      obtain ⟨t', -, rfl⟩ := List.mem_map.mp hm
      rw [hlen r hr _ hm2, hlen r hr t ht]
    refine ⟨y, by rw [if_pos htp, h], fun r hr t ht => ?_⟩
    rw [hv r hr t ht]
    simp only [hlen r hr t ht, S.map_members_tp]
  · have h1 : S.tpSize = 1 := by have := S.tpSize_pos; omega
    refine ⟨x, if_neg htp, fun r hr t ht => ?_⟩
    obtain rfl : t = 0 := by omega
    rw [hx r hr 0 ht, h1]
    exact congrArg Except.ok (sumRows_singleton (hlen r hr 0 ht)).symm

theorem mlpForward_okOn {x : Local (List α)} {H : Nat → List α} (hx : S.OkOn x fun r _ => H r) :
    ∃ y, CustomDeepseekV2MLP.forward S ops x = .ok y ∧
      S.OkOn y fun r _ => sumRows (H r).length ((List.range S.tpSize).map fun t => (H r).map (ops.mlp r t)) :=
  tpAllReduce_okOn S (hx.map fun r t x => x.map (ops.mlp r t)) fun _ _ _ _ => List.length_map _ _

theorem denseFullyConnected_okOn {h residual : Local (List α)} {H Y : Nat → List α} (hh : S.OkOn h fun r _ => H r)
    (hr : S.OkOn residual fun r _ => Y r) (hlen : ∀ r < S.dpSize, (H r).length = (Y r).length) :
    ∃ y, denseFullyConnected S ops h residual = .ok y ∧ S.OkOn y fun r _ =>
      (List.zipWith (· + ·) (Y r) (sumRows (H r).length ((List.range S.tpSize).map fun t => (H r).map (ops.mlp r t))),
        none) := by
  refine exists_ok_bind (mlpForward_okOn S ops hh) fun y hy => ⟨_, rfl, hy.zip hr fun r hr' t ht => ?_⟩
  rw [add_of_length_eq (by simp [hlen r hr']), List.zipWith_comm]
  simp only [add_comm]
  rfl

theorem moeFullyConnected_eq [SMul ℚ α] (L : CustomDeepseekV2DecoderLayer) (meta : Option DPMetadataForPadding)
    (residual : Local (List α)) {isPrefill : Bool} (hshared : L.config.nSharedExperts.isSome = true)
    (hchunk : (S.enableMc2 && !isPrefill && 1 < S.tpSize) = false) {h : Local (List α)}
    {H : Nat → Nat → List α} (hh : S.OkOn h H) :
    ∃ sh g, S.OkOn sh (fun r t => some ((H r t).map (ops.sharedExperts r t))) ∧
      S.OkOn g (fun r t => List.zipWith (· + ·) ((ops.experts r t (H r t)).map (L.config.routedScalingFactor • ·))
        ((H r t).map (ops.sharedExperts r t))) ∧
      L.moeFullyConnected S ops meta isPrefill h residual = L.postMoeProcess S ops meta sh g residual isPrefill := by
  have hsh := (hh.map fun r t x => x.map (ops.sharedExperts r t)).map fun _ _ => some
  simp only [moeFullyConnected, hshared, if_true, sharedExpertForward_false, ok_bind]
  exact ⟨_, _, hsh, (moeForward_okOn S ops L.config hchunk hh).zip hsh fun r _ t _ =>
    add_of_length_eq (by simp [ops.experts_length]), rfl⟩

theorem postAttentionProcess_allReduce (L : CustomDeepseekV2DecoderLayer) (meta : Option DPMetadataForPadding)
    {isPrefill : Bool} (hmode : (isPrefill || !S.enableGraphMode) = true)
    (hbranch : (S.dpSize ≤ 1 || decide (L.layerIdx < L.config.firstKDenseReplace)) = true)
    {hidden residual : Local (List α)} {h : Nat → Nat → List α} {x : Nat → List α} (hh : S.OkOn hidden h)
    (hr : S.OkOn residual fun r _ => x r) (hlen : ∀ r < S.dpSize, ∀ t < S.tpSize, (h r t).length = (x r).length) :
    ∃ z, L.postAttentionProcess S ops meta hidden residual isPrefill = .ok z ∧
      S.OkOn z fun r _ => ((attnStream S.tpSize h x r).map ops.postAttentionLayernorm, attnStream S.tpSize h x r) := by
  rw [postAttentionProcess, if_pos hmode, if_pos hbranch]
  refine exists_ok_bind (S.allReduce_okOn .tp hh fun r hr t ht m hm => ?_) fun y hy =>
    ⟨_, rfl, hy.zip hr fun r hr' t ht => ?_⟩
  · obtain ⟨hm1, hm2⟩ := S.mem_members hr ht hm
    obtain ⟨t', -, rfl⟩ := List.mem_map.mp hm
    rw [hlen _ hm1 _ hm2, hlen r hr t ht]
  · rw [addRmsNorm_of_length_eq _ (by simp [hlen r hr' t ht])]
    simp only [S.map_members_tp, hlen r hr' t ht, attnStream]

theorem postAttentionProcess_graph (L : CustomDeepseekV2DecoderLayer) (meta : Option DPMetadataForPadding)
    {isPrefill : Bool} (hmode : (isPrefill || !S.enableGraphMode) = false) (hdp : S.dpSize = 1)
    (hmc2 : S.enableMc2 = false) {hidden residual : Local (List α)} {h : Nat → Nat → List α} {x : Nat → List α}
    (hh : S.OkOn hidden h) (hr : S.OkOn residual fun r _ => x r)
    (hlen : ∀ r < S.dpSize, ∀ t < S.tpSize, (h r t).length = (x r).length) :
    ∃ z, L.postAttentionProcess S ops meta hidden residual isPrefill = .ok z ∧
      S.OkOn z fun r _ => ((attnStream S.tpSize h x r).map ops.postAttentionLayernorm, attnStream S.tpSize h x r) := by
  have hgraph : S.enableGraphMode = true := by simp at hmode; exact hmode.2
  rw [postAttentionProcess, if_neg (Bool.eq_false_iff.mp hmode)]
  refine exists_ok_bind (tpAllReduce_okOn S hh hlen) fun y hy => ?_
  rw [if_pos (by simp [hgraph, hmc2])]
  refine exists_ok_bind (S.allGather_okOn .dp hy fun r hr t ht m hm => ?_) fun w hw =>
    ⟨_, rfl, hw.zip hr fun r hr' t ht => ?_⟩
  · obtain ⟨hm1, -⟩ := S.mem_members hr ht hm
    rw [show m.1 = r by omega]
  · obtain rfl : r = 0 := by omega
    rw [S.map_members_dp, hdp, show List.range 1 = [0] from rfl, List.map_singleton, List.flatten_singleton,
      addRmsNorm_of_length_eq _ (by simp)]
    rfl

/-- The branches in which `post_attention_process` gives every TP rank the whole stream of its DP rank: the
    all-reduce branch of a prefill or eager pass, and a graph-mode decode pass without DP or MC2. -/
def Unsharded (S : Setup) (L : CustomDeepseekV2DecoderLayer) (isPrefill : Bool) : Prop :=
  (isPrefill || !S.enableGraphMode) = true ∧ (S.dpSize ≤ 1 ∨ L.layerIdx < L.config.firstKDenseReplace) ∨
    (isPrefill || !S.enableGraphMode) = false ∧ S.dpSize = 1 ∧ S.enableMc2 = false

theorem postAttentionProcess_unsharded (L : CustomDeepseekV2DecoderLayer) (meta : Option DPMetadataForPadding)
    {isPrefill : Bool} (hu : Unsharded S L isPrefill) {hidden residual : Local (List α)} {h : Nat → Nat → List α}
    {x : Nat → List α} (hh : S.OkOn hidden h) (hr : S.OkOn residual fun r _ => x r)
    (hlen : ∀ r < S.dpSize, ∀ t < S.tpSize, (h r t).length = (x r).length) :
    ∃ z, L.postAttentionProcess S ops meta hidden residual isPrefill = .ok z ∧
      S.OkOn z fun r _ => ((attnStream S.tpSize h x r).map ops.postAttentionLayernorm, attnStream S.tpSize h x r) := by
  rcases hu with ⟨hmode, hbranch⟩ | ⟨hmode, hdp, hmc2⟩
  · exact postAttentionProcess_allReduce S ops L meta hmode (by simpa using hbranch) hh hr hlen
  · exact postAttentionProcess_graph S ops L meta hmode hdp hmc2 hh hr hlen

theorem wpSum_okOn {shared : Local (Option (List α))} {hidden : Local (List α)} {s g : Nat → Nat → List α} {n : Nat}
    (hs : S.OkOn shared fun r t => some (s r t)) (hg : S.OkOn hidden g)
    (hlen : ∀ r < S.dpSize, ∀ t < S.tpSize, (s r t).length = n ∧ (g r t).length = n) :
    ∃ y, S.collective .wp .allReduce (shared.zip hidden fun _ _ s h => addOpt s h) = .ok y ∧
      S.OkOn y fun _ _ => sumRows n (S.ranks.map fun w => List.zipWith (· + ·) (s w.1 w.2) (g w.1 w.2)) := by
  have hn : ∀ r < S.dpSize, ∀ t < S.tpSize, (List.zipWith (· + ·) (s r t) (g r t)).length = n := fun r hr t ht => by
    simp [(hlen r hr t ht).1, (hlen r hr t ht).2]
  obtain ⟨y, h, hv⟩ := S.allReduce_okOn .wp (hs.zip hg (f := fun _ _ s h => addOpt s h) fun r hr t ht =>
      add_of_length_eq ((hlen r hr t ht).1.trans (hlen r hr t ht).2.symm)) fun r hr t ht m hm => by
    obtain ⟨hm1, hm2⟩ := S.mem_members hr ht hm
    rw [hn _ hm1 _ hm2, hn r hr t ht]
  exact ⟨y, h, fun r hr t ht => by rw [hv r hr t ht]; simp only [hn r hr t ht]; rfl⟩

theorem postMoeProcess_unsharded (L : CustomDeepseekV2DecoderLayer) (meta : Option DPMetadataForPadding)
    {isPrefill : Bool} (hmode : (isPrefill || !S.enableGraphMode) = true) (hdp : S.dpSize ≤ 1)
    {shared : Local (Option (List α))} {hidden residual : Local (List α)} {s g : Nat → Nat → List α} {n : Nat}
    (hs : S.OkOn shared fun r t => some (s r t)) (hg : S.OkOn hidden g)
    (hlen : ∀ r < S.dpSize, ∀ t < S.tpSize, (s r t).length = n ∧ (g r t).length = n) :
    ∃ z, L.postMoeProcess S ops meta shared hidden residual isPrefill = .ok z ∧
      S.OkOn z fun _ _ => (sumRows n (S.ranks.map fun w => List.zipWith (· + ·) (s w.1 w.2) (g w.1 w.2)), none) := by
  rw [postMoeProcess, if_pos hmode]
  simp only []
  rw [if_pos hdp]
  exact exists_ok_bind (wpSum_okOn S hs hg hlen) fun y hy => ⟨_, rfl, hy.map fun _ _ h => (h, none)⟩

theorem postMoeProcess_graph (L : CustomDeepseekV2DecoderLayer) (meta : Option DPMetadataForPadding)
    {isPrefill : Bool} (hmode : (isPrefill || !S.enableGraphMode) = false) (hmc2 : S.enableMc2 = false)
    {shared : Local (Option (List α))} {hidden residual : Local (List α)} {s g : Nat → Nat → List α}
    {y : Nat → List α} {n : Nat} (hs : S.OkOn shared fun r t => some (s r t)) (hg : S.OkOn hidden g)
    (hr : S.OkOn residual fun r _ => y r)
    (hlen : ∀ r < S.dpSize, ∀ t < S.tpSize, (s r t).length = n ∧ (g r t).length = n)
    (hy : ∀ r < S.dpSize, (y r).length = n) :
    ∃ z, L.postMoeProcess S ops meta shared hidden residual isPrefill = .ok z ∧
      S.OkOn z fun r _ => (List.zipWith (· + ·)
        (sumRows n (S.ranks.map fun w => List.zipWith (· + ·) (s w.1 w.2) (g w.1 w.2))) (y r), none) := by
  rw [postMoeProcess, if_neg (Bool.eq_false_iff.mp hmode), if_neg (by simp [hmc2])]
  refine exists_ok_bind (wpSum_okOn S hs hg hlen) fun z hz => ⟨_, rfl, hz.zip hr fun r hr' _ _ => ?_⟩
  simp [add_of_length_eq (by simp [hy r hr'] : (sumRows n _).length = (y r).length)]

end Parts

/-! ### One layer on the residual stream -/

section Laws
variable [AddCommMonoid α] [SMul ℚ α] (S : Setup) (ops : LayerOps α)

theorem forward_eq (L : CustomDeepseekV2DecoderLayer) (meta : Option DPMetadataForPadding) (isPrefill : Bool)
    (hfp : S.isFp16 = false) (x : Local (List α × Option (List α))) :
    L.forward S ops meta isPrefill x =
      L.postAttentionProcess S ops meta ((x.bind (L.attend S ops)).map fun _ _ => Prod.fst)
          ((x.bind (L.attend S ops)).map fun _ _ => Prod.snd) isPrefill >>= fun x =>
        if L.isMoe then L.moeFullyConnected S ops meta isPrefill (x.map fun _ _ => Prod.fst) (x.map fun _ _ => Prod.snd)
        else denseFullyConnected S ops (x.map fun _ _ => Prod.fst) (x.map fun _ _ => Prod.snd) := by
  simp only [forward, hfp, Bool.and_false, Bool.false_eq_true, if_false, bind_pure]

/-- A dense layer in a branch where `post_attention_process` gives every TP rank its DP rank's whole stream
    returns on every rank that stream plus the TP sum of the partial MLPs of its normed rows, and no
    residual. -/
theorem forward_dense (L : CustomDeepseekV2DecoderLayer) (meta : Option DPMetadataForPadding) {isPrefill : Bool}
    (hu : Unsharded S L isPrefill) (hmoe : L.isMoe = false) (hfp : S.isFp16 = false)
    {x : Local (List α × Option (List α))} {X : Nat → List α} (hx : S.OkOn x fun r _ => (X r, none)) :
    ∃ z, L.forward S ops meta isPrefill x = .ok z ∧ S.OkOn z fun r _ => (ops.denseStream S.tpSize X r, none) := by
  have ha := attend_okOn S ops L hfp hx
  rw [forward_eq S ops L _ _ hfp]
  refine exists_ok_bind (postAttentionProcess_unsharded S ops L meta hu (x := X)
    (ha.map fun _ _ => Prod.fst) (ha.map fun _ _ => Prod.snd) fun r _ t _ => by simp [ops.selfAttn_length])
    fun z hz => ?_
  rw [if_neg (by simp [hmoe])]
  obtain ⟨y, hy, hv⟩ := denseFullyConnected_okOn S ops (H := fun r => (ops.stream S.tpSize X r).map ops.postAttentionLayernorm)
    (Y := ops.stream S.tpSize X) (hz.map fun _ _ => Prod.fst) (hz.map fun _ _ => Prod.snd) fun r _ => by simp
  exact ⟨y, hy, hv.congr fun r _ t _ => by simp [LayerOps.denseStream]⟩

/-- Without DP a MoE layer returns on every rank the WP sum of every rank's shared output plus its routed
    output with the shared output added, and no residual: the stream itself is not added back. -/
theorem forward_moe (L : CustomDeepseekV2DecoderLayer) (meta : Option DPMetadataForPadding) {isPrefill : Bool}
    (hmode : (isPrefill || !S.enableGraphMode) = true) (hdp : S.dpSize ≤ 1) (hmoe : L.isMoe = true)
    (hshared : L.config.nSharedExperts.isSome = true) (hchunk : (S.enableMc2 && !isPrefill && 1 < S.tpSize) = false)
    (hfp : S.isFp16 = false) {x : Local (List α × Option (List α))} {X : Nat → List α}
    (hx : S.OkOn x fun r _ => (X r, none)) :
    ∃ z, L.forward S ops meta isPrefill x = .ok z ∧
      S.OkOn z fun _ _ => (ops.moeStream S L.config.routedScalingFactor X, none) := by
  have ha := attend_okOn S ops L hfp hx
  rw [forward_eq S ops L _ _ hfp]
  refine exists_ok_bind (postAttentionProcess_allReduce S ops L meta hmode (by simp [hdp]) (x := X)
    (ha.map fun _ _ => Prod.fst) (ha.map fun _ _ => Prod.snd) fun r _ t _ => by simp [ops.selfAttn_length])
    fun z hz => ?_
  rw [if_pos hmoe]
  obtain ⟨sh, g, hsh, hg, heq⟩ := moeFullyConnected_eq S ops L meta (z.map fun _ _ => Prod.snd) hshared hchunk
    (hz.map fun _ _ => Prod.fst)
  rw [heq]
  obtain ⟨w, hw, hv⟩ := postMoeProcess_unsharded S ops L meta hmode hdp hsh hg (n := (X 0).length)
    fun r hr _ _ => by rw [Nat.lt_one_iff.mp (hr.trans_le hdp)]; simp [ops.experts_length]
  exact ⟨w, hw, hv.congr fun _ _ _ _ => rfl⟩

def oneRank (isFp16 : Bool) : Setup := ⟨1, 1, by decide, by decide, false, false, isFp16, false, 1⟩

def soleMoeLayer : CustomDeepseekV2DecoderLayer := ⟨⟨1, 0, 1, some 1, some 1, 1, "silu", 2, none⟩, 0⟩

def silentOps : LayerOps ℚ :=
  ⟨id, id, fun _ _ x => x.map fun _ => 0, fun _ _ _ => List.length_map _ _, fun _ _ _ => 0, fun _ _ _ => 0,
    fun _ _ x => x.map fun _ => 0, fun _ _ _ => List.length_map _ _⟩

/-- On one rank in a prefill pass, the MoE layer returns the row `0` for the stream `[1]`, although the
    attention and the experts contribute nothing and the stream after the attention is `[1]`. -/
theorem forward_moe_oneRank :
    silentOps.stream 1 (fun _ => [1]) 0 = [1] ∧
      ((soleMoeLayer.forward (oneRank false) silentOps (some (planOf 1 [1])) true fun _ _ => .ok ([1], none)).map
        fun z => z 0 0) = .ok (.ok ([0], none)) :=
  ⟨by with_unfolding_all decide, by with_unfolding_all rfl⟩

/-- A MoE layer in a graph-mode decode pass without DP or MC2 returns on every rank its stream plus the WP
    sum of every rank's shared output plus its routed output with the shared output added, and no residual. -/
theorem forward_moeGraph (L : CustomDeepseekV2DecoderLayer) (meta : Option DPMetadataForPadding) {isPrefill : Bool}
    (hmode : (isPrefill || !S.enableGraphMode) = false) (hdp : S.dpSize = 1) (hmc2 : S.enableMc2 = false)
    (hmoe : L.isMoe = true) (hshared : L.config.nSharedExperts.isSome = true) (hfp : S.isFp16 = false)
    {x : Local (List α × Option (List α))} {X : Nat → List α} (hx : S.OkOn x fun r _ => (X r, none)) :
    ∃ z, L.forward S ops meta isPrefill x = .ok z ∧ S.OkOn z fun r _ =>
      (List.zipWith (· + ·) (ops.moeStream S L.config.routedScalingFactor X) (ops.stream S.tpSize X r), none) := by
  have ha := attend_okOn S ops L hfp hx
  rw [forward_eq S ops L _ _ hfp]
  refine exists_ok_bind (postAttentionProcess_graph S ops L meta hmode hdp hmc2 (x := X)
    (ha.map fun _ _ => Prod.fst) (ha.map fun _ _ => Prod.snd) fun r _ t _ => by simp [ops.selfAttn_length])
    fun z hz => ?_
  rw [if_pos hmoe]
  obtain ⟨sh, g, hsh, hg, heq⟩ := moeFullyConnected_eq S ops L meta (z.map fun _ _ => Prod.snd) hshared
    (by simp [hmc2]) (hz.map fun _ _ => Prod.fst)
  rw [heq]
  obtain ⟨w, hw, hv⟩ := postMoeProcess_graph S ops L meta hmode hmc2 hsh hg (hz.map fun _ _ => Prod.snd)
    (y := ops.stream S.tpSize X) (n := (X 0).length)
    (fun r hr _ _ => by rw [Nat.lt_one_iff.mp (hr.trans_le hdp.le)]; simp [ops.experts_length])
    fun r hr => by rw [Nat.lt_one_iff.mp (hr.trans_le hdp.le)]; simp
  exact ⟨w, hw, hv.congr fun _ _ _ _ => rfl⟩

/-- Without DP and MC2, a decode pass of a MoE layer returns on every rank in both modes: in eager mode the
    WP sum of the shared and routed outputs alone, in graph mode that sum plus the residual stream of the
    layer, which the eager pass drops. -/
theorem forward_graph_eager (L : CustomDeepseekV2DecoderLayer) (meta : Option DPMetadataForPadding)
    (hdp : S.dpSize = 1) (hmc2 : S.enableMc2 = false) (hmoe : L.isMoe = true)
    (hshared : L.config.nSharedExperts.isSome = true) (hfp : S.isFp16 = false)
    {x : Local (List α × Option (List α))} {X : Nat → List α} (hx : S.OkOn x fun r _ => (X r, none)) :
    ∃ ze zg, L.forward { S with enableGraphMode := false } ops meta false x = .ok ze ∧
      L.forward { S with enableGraphMode := true } ops meta false x = .ok zg ∧
      S.OkOn ze (fun _ _ => (ops.moeStream S L.config.routedScalingFactor X, none)) ∧
      S.OkOn zg fun r _ =>
        (List.zipWith (· + ·) (ops.moeStream S L.config.routedScalingFactor X) (ops.stream S.tpSize X r), none) := by
  obtain ⟨ze, he, hve⟩ := forward_moe { S with enableGraphMode := false } ops L meta
    (show (false || !false) = true from rfl) hdp.le hmoe hshared (by simp [hmc2]) hfp hx
  obtain ⟨zg, hg, hvg⟩ := forward_moeGraph { S with enableGraphMode := true } ops L meta
    (show (false || !true) = false from rfl) hdp hmc2 hmoe hshared hfp hx
  exact ⟨ze, zg, he, hg, hve, hvg⟩

theorem forward_graph_eager_oneRank :
    (oneRank false).dpSize = 1 ∧ (oneRank false).enableMc2 = false ∧ soleMoeLayer.isMoe = true ∧
      soleMoeLayer.config.nSharedExperts.isSome = true ∧ (oneRank false).isFp16 = false ∧
      (oneRank false).OkOn (fun _ _ => .ok ([1], none)) (fun _ _ => (([1] : List ℚ), (none : Option (List ℚ)))) ∧
      ∃ ze zg, soleMoeLayer.forward { oneRank false with enableGraphMode := false } silentOps (some (planOf 1 [1]))
          false (fun _ _ => .ok ([1], none)) = .ok ze ∧
        soleMoeLayer.forward { oneRank false with enableGraphMode := true } silentOps (some (planOf 1 [1])) false
          (fun _ _ => .ok ([1], none)) = .ok zg ∧
        (oneRank false).OkOn ze (fun _ _ => (silentOps.moeStream (oneRank false) 1 fun _ => [1], none)) ∧
        (oneRank false).OkOn zg fun r _ => (List.zipWith (· + ·) (silentOps.moeStream (oneRank false) 1 fun _ => [1])
          (silentOps.stream 1 (fun _ => [1]) r), none) :=
  ⟨rfl, rfl, by decide, rfl, rfl, fun _ _ _ _ => rfl,
    forward_graph_eager (oneRank false) silentOps soleMoeLayer _ rfl rfl (by decide) rfl rfl fun _ _ _ _ => rfl⟩

/-- With DP, from `first_k_dense_replace` on, a MoE layer on the plan's layout returns on rank `(r, t)` the
    stream of DP rank `r` plus its block of the WP sum over the packed batch, and piece `t` of that padded
    to the window as the residual, or no residual at the model's last layer. -/
theorem forward_moeSharded (L : CustomDeepseekV2DecoderLayer) {counts : List Nat} (hdp : counts.length = S.dpSize)
    (hdp1 : 1 < S.dpSize) {isPrefill : Bool}
    (hmode : (isPrefill || !S.enableGraphMode) = true) (hmoe : L.isMoe = true)
    (hshared : L.config.nSharedExperts.isSome = true) (hchunk : (S.enableMc2 && !isPrefill && 1 < S.tpSize) = false)
    (hfp : S.isFp16 = false) {x : Local (List α × Option (List α))} {X : Nat → List α}
    (hX : ∀ r < S.dpSize, (X r).length = counts.getD r 0)
    (hx : S.OkOn x fun r t => (X r, if L.layerIdx = L.config.firstKDenseReplace then none
      else some (piece (paddedLength S.tpSize counts / S.tpSize) t (padTo (paddedLength S.tpSize counts) (X r))))) :
    ∃ z, L.forward S ops (some (planOf S.tpSize counts)) isPrefill x = .ok z ∧
      S.OkOn z fun r t => (ops.moeShardedStream S L.config.routedScalingFactor counts X r,
        if (L.layerIdx : Int) = L.config.numHiddenLayers - 1 then none
        else some (piece (paddedLength S.tpSize counts / S.tpSize) t (padTo (paddedLength S.tpSize counts)
          (ops.moeShardedStream S L.config.routedScalingFactor counts X r)))) := by
  have ha := attend_okOn S ops L hfp hx
  rw [forward_eq S ops L _ _ hfp]
  refine exists_ok_bind (postAttentionProcess_planOf L S ops hdp hdp1 (firstKDenseReplace_le_of_isMoe hmoe) hmode (x := X)
    (fun r hr t _ => by simp [ops.selfAttn_length, hX r hr]) hX (ha.map fun _ _ => Prod.fst)
    ((ha.map fun _ _ => Prod.snd).congr fun r _ t _ => by split_ifs <;> rfl)) fun z hz => ?_
  rw [if_pos hmoe]
  obtain ⟨sh, g, hsh, hg, heq⟩ := moeFullyConnected_eq S ops L _ (z.map fun _ _ => Prod.snd) hshared hchunk
    (hz.map fun _ _ => Prod.fst)
  rw [heq]
  have hB := ops.length_packed S hdp hX
  exact postMoeProcess_planOf L S ops hdp hdp1 hmode (y := ops.stream S.tpSize X)
    (s := fun r t => (ops.packed S X).map (ops.sharedExperts r t))
    (g := fun r t => List.zipWith (· + ·) ((ops.experts r t (ops.packed S X)).map (L.config.routedScalingFactor • ·))
      ((ops.packed S X).map (ops.sharedExperts r t)))
    (fun _ _ _ _ => by simp [hB]) (fun _ _ _ _ => by simp [ops.experts_length, hB])
    (fun r hr => by simp [hX r hr]) hsh hg (hz.map fun _ _ => Prod.snd)

end Laws

end DeepseekAscend
