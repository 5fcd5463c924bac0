import DeepseekAscend.Model
import DeepseekAscend.Theorems.Layers
import Mathlib.Algebra.Order.Ring.Rat

/-! The layer stack of a stage over a whole run (§4.3).

In the passes the stream laws cover (`Covered`: a prefill or eager pass, or a graph-mode decode pass
without DP or MC2, without fp16 activations and without the MC2 piece of the routed experts, shared experts
in every MoE layer, and with DP no dense layer from `first_k_dense_replace` on), every layer returns on
every rank and no collective diverges. Between consecutive layers rank `(r, t)` holds the stream of DP rank
`r`, of its own `lengths[r]` rows, and either no residual or piece `t` of the stream padded to `max_length`
(`Represents`). The streams are what the
layer laws of `Layers` give, one layer after the other (`streams`). -/

namespace DeepseekAscend
open DPMetadataForPadding CustomDeepseekV2DecoderLayer

variable {α : Type}

namespace CustomDeepseekV2Model

variable (M : CustomDeepseekV2Model)

/-- The passes and the configs that the stream laws cover. -/
structure Covered (S : Setup) (isPrefill : Bool) : Prop where
  mode : (isPrefill || !S.enableGraphMode) = true ∨ S.dpSize = 1 ∧ S.enableMc2 = false
  fp16 : S.isFp16 = false
  chunk : (S.enableMc2 && !isPrefill && 1 < S.tpSize) = false
  shared : ∀ i, M.startLayer ≤ i → i < M.endLayer → (M.layer i).isMoe = true →
    M.config.nSharedExperts.isSome = true
  sharded : ∀ i, M.startLayer ≤ i → i < M.endLayer → 1 < S.dpSize → M.config.firstKDenseReplace ≤ i →
    (M.layer i).isMoe = true
  ordered : M.startLayer ≤ M.endLayer
  last : M.endLayer ≤ M.config.numHiddenLayers

def carriesResidual (S : Setup) (i : Nat) : Bool :=
  1 < S.dpSize && decide (M.config.firstKDenseReplace < i) && decide (i < M.config.numHiddenLayers)

section Pairs
variable [AddCommMonoid α] (S : Setup) (counts : List Nat)

def pairAt (i : Nat) (X : Nat → List α) (r t : Nat) : List α × Option (List α) :=
  (X r, if M.carriesResidual S i then
    some (piece (paddedLength S.tpSize counts / S.tpSize) t (padTo (paddedLength S.tpSize counts) (X r)))
    else none)

/-- The grid `x` enters layer `i` holding the streams `X` of the DP ranks, of `counts` rows each. -/
structure Represents (i : Nat) (x : Local (List α × Option (List α))) (X : Nat → List α) : Prop where
  length : ∀ r < S.dpSize, (X r).length = counts.getD r 0
  pair : S.OkOn x (M.pairAt S counts i X)

end Pairs

section Streams
variable [AddCommMonoid α] [SMul ℚ α] (S : Setup) (ops : ModelOps α) (counts : List Nat)

/-- What layer `i` does to the streams of the DP ranks. -/
def streamStep (isPrefill : Bool) (i : Nat) (X : Nat → List α) : Nat → List α :=
  if (M.layer i).isMoe then
    if isPrefill || !S.enableGraphMode then
      if S.dpSize ≤ 1 then fun _ => (ops.layers i).moeStream S M.config.routedScalingFactor X
      else (ops.layers i).moeShardedStream S M.config.routedScalingFactor counts X
    else fun r => List.zipWith (· + ·) ((ops.layers i).moeStream S M.config.routedScalingFactor X)
      ((ops.layers i).stream S.tpSize X r)
  else (ops.layers i).denseStream S.tpSize X

def streams (isPrefill : Bool) : List Nat → (Nat → List α) → Nat → List α
  | [], X => X
  | i :: is, X => streams isPrefill is (M.streamStep S ops counts isPrefill i X)

variable {S} {isPrefill : Bool}

theorem length_streamStep (hc : M.Covered S isPrefill) {X : Nat → List α}
    (hX : ∀ r < S.dpSize, (X r).length = counts.getD r 0) (i : Nat) :
    ∀ r < S.dpSize, (M.streamStep S ops counts isPrefill i X r).length = counts.getD r 0 := by
  intro r hr
  unfold streamStep
  split
  · split
    · split
      · obtain rfl : r = 0 := by omega
        simp [hX 0 hr]
      · exact LayerOps.length_moeShardedStream _ S _ hX hr
    · obtain rfl : r = 0 := by have := (hc.mode.resolve_left ‹_›).1; omega
      simp [hX 0 hr]
  · simp [hX r hr]

theorem forward_represents (hc : M.Covered S isPrefill) (hdp : counts.length = S.dpSize)
    (meta : Option DPMetadataForPadding) (hmeta : 1 < S.dpSize → meta = some (planOf S.tpSize counts)) {i : Nat}
    (hi₁ : M.startLayer ≤ i) (hi₂ : i < M.endLayer) {x : Local (List α × Option (List α))} {X : Nat → List α}
    (hx : M.Represents S counts i x X) :
    ∃ z, (M.layer i).forward S (ops.layers i) meta isPrefill x = .ok z ∧
      M.Represents S counts (i + 1) z (M.streamStep S ops counts isPrefill i X) := by
  have hnhl : i < M.config.numHiddenLayers := Nat.lt_of_lt_of_le hi₂ hc.last
  have hlen := M.length_streamStep ops counts hc hx.length i
  -- without DP no pair carries a residual
  have hres : S.dpSize ≤ 1 → ∀ j, M.carriesResidual S j = false := fun h j => by simp [carriesResidual]; omega
  by_cases hmoe : (M.layer i).isMoe
  · have hfk : M.config.firstKDenseReplace ≤ i := firstKDenseReplace_le_of_isMoe hmoe
    have hsh := hc.shared i hi₁ hi₂ hmoe
    cases hmode : isPrefill || !S.enableGraphMode
    · -- a graph-mode decode pass without DP or MC2
      obtain ⟨hdp1, hmc2⟩ := hc.mode.resolve_left (Bool.eq_false_iff.mp hmode)
      obtain ⟨z, hz, hv⟩ := forward_moeGraph S (ops.layers i) (M.layer i) meta hmode hdp1 hmc2 hmoe hsh hc.fp16
        (X := X) (hx.pair.congr fun r _ t _ => by simp [pairAt, hres hdp1.le])
      exact ⟨z, hz, hlen, hv.congr fun r _ t _ => by simp [pairAt, hres hdp1.le, streamStep, hmoe, hmode]⟩
    by_cases hdp1 : S.dpSize ≤ 1
    · obtain ⟨z, hz, hv⟩ := forward_moe S (ops.layers i) (M.layer i) meta hmode hdp1 hmoe hsh hc.chunk hc.fp16
        (X := X) (hx.pair.congr fun r _ t _ => by simp [pairAt, hres hdp1])
      exact ⟨z, hz, hlen, hv.congr fun r _ t _ => by simp [pairAt, hres hdp1, streamStep, hmoe, hmode, hdp1]⟩
    · -- with DP the residual is carried from the layer after `first_k_dense_replace` to the last layer
      have hin : M.carriesResidual S i = true ↔ i ≠ M.config.firstKDenseReplace := by
        simp [carriesResidual]; omega
      have hout : M.carriesResidual S (i + 1) = true ↔ (i : Int) ≠ M.config.numHiddenLayers - 1 := by
        simp [carriesResidual]; omega
      obtain rfl := hmeta (by omega)
      obtain ⟨z, hz, hv⟩ := forward_moeSharded S (ops.layers i) (M.layer i) hdp (by omega) hmode hmoe hsh hc.chunk
        hc.fp16 hx.length (hx.pair.congr fun r _ t _ => by simp [pairAt, hin])
      exact ⟨z, hz, hlen, hv.congr fun r _ t _ => by simp [pairAt, hout, streamStep, hmoe, hmode, hdp1]⟩
  · -- a dense layer gets its DP rank's whole stream, and no pair around it carries a residual
    have hu : Unsharded S (M.layer i) isPrefill := by
      cases hmode : isPrefill || !S.enableGraphMode
      · exact .inr ⟨hmode, hc.mode.resolve_left (Bool.eq_false_iff.mp hmode)⟩
      · refine .inl ⟨hmode, ?_⟩
        by_contra h
        exact hmoe (hc.sharded i hi₁ hi₂ (by simp at h; omega) (by simp at h; omega))
    have hres' : M.carriesResidual S i = false ∧ M.carriesResidual S (i + 1) = false := by
      rcases hu with ⟨-, h⟩ | ⟨-, h, -⟩ <;> simp [carriesResidual] at h ⊢ <;> omega
    obtain ⟨z, hz, hv⟩ := forward_dense S (ops.layers i) (M.layer i) meta hu (by simpa using hmoe) hc.fp16
      (X := X) (hx.pair.congr fun r _ t _ => by simp [pairAt, hres'.1])
    exact ⟨z, hz, hlen, hv.congr fun r _ t _ => by simp [pairAt, hres'.2, streamStep, hmoe]⟩

/-- The layers `i .. i + k` of a covered pass keep the representation, with the streams of `streams`. -/
theorem runLayers_represents (hc : M.Covered S isPrefill) (hdp : counts.length = S.dpSize)
    (meta : Option DPMetadataForPadding) (hmeta : 1 < S.dpSize → meta = some (planOf S.tpSize counts)) :
    ∀ (k i : Nat), M.startLayer ≤ i → i + k ≤ M.endLayer → ∀ {x : Local (List α × Option (List α))}
      {X : Nat → List α}, M.Represents S counts i x X →
      ∃ z, M.runLayers S ops meta isPrefill (List.range' i k) x = .ok z ∧
        M.Represents S counts (i + k) z (M.streams S ops counts isPrefill (List.range' i k) X)
  | 0, _, _, _, x, _, hx => ⟨x, rfl, hx⟩
  | k + 1, i, hi₁, hi₂, _, _, hx => by
    obtain ⟨z, hz, hv⟩ := M.forward_represents ops counts hc hdp meta hmeta hi₁ (by omega) hx
    obtain ⟨w, hw, hv'⟩ := runLayers_represents hc hdp meta hmeta k (i + 1) (by omega) (by omega) hv
    refine ⟨w, by rw [List.range'_succ, runLayers, hz, ok_bind]; exact hw, ?_⟩
    rwa [Nat.add_right_comm, Nat.add_assoc] at hv'

/-- A covered pass through the stage from a grid that represents the streams `X`: every rank returns the
    final norm of its DP rank's stream after the stage's layers, or hands that stream on with its pair. -/
theorem forward_streams (hc : M.Covered S isPrefill) (hdp : counts.length = S.dpSize)
    (meta : Option DPMetadataForPadding) (hmeta : 1 < S.dpSize → meta = some (planOf S.tpSize counts))
    {inputsEmbeds : Local (List α)} {intermediateTensors : Local (List α × Option (List α))} {X : Nat → List α}
    (hx : M.Represents S counts M.startLayer
      (if M.isFirstRank then inputsEmbeds.map fun _ _ h => (h, none) else intermediateTensors) X) :
    ∃ z, M.forward S ops meta isPrefill inputsEmbeds intermediateTensors = .ok z ∧
      S.OkOn z fun r t => if M.isLastRank then
          .hiddenStates ((M.streams S ops counts isPrefill M.layerRange X r).map ops.norm)
        else .intermediateTensors (M.streams S ops counts isPrefill M.layerRange X r)
          (M.pairAt S counts M.endLayer (M.streams S ops counts isPrefill M.layerRange X) r t).2 := by
  obtain ⟨z, hz, hv⟩ := M.runLayers_represents ops counts hc hdp meta hmeta _ M.startLayer le_rfl
    (Nat.add_sub_cancel' hc.ordered).le hx
  rw [Nat.add_sub_cancel' hc.ordered] at hv
  cases hl : M.isLastRank <;>
    exact ⟨_, by simp only [forward, layerRange, hz, hl, ok_bind]; rfl, fun r hr t ht => by
      rw [Local.map_apply, hv.pair r hr t ht]; rfl⟩

end Streams

end CustomDeepseekV2Model

/-! ### The forward pass -/

namespace CustomDeepseekV2ForCausalLM
variable (F : CustomDeepseekV2ForCausalLM) {S : Setup} [AddCommMonoid α] [SMul ℚ α] (ops : ModelOps α)

/-- A covered pass of the first pipeline stage from the embeddings `X r` of every DP rank's own tokens:
    `forward` stores the plan of the counts in a prefill or eager pass and keeps the stored one in a
    graph-mode decode pass, no collective diverges, every rank returns, and rank `(r, t)` gives the final
    norm of its DP rank's stream after the stage's layers, or hands the stream on with either no residual or
    piece `t` of it padded to `max_length`. -/
theorem forward_covered {isPrefill : Bool} (hc : F.model.Covered S isPrefill) {counts : List Nat}
    (hdp : counts.length = S.dpSize) (meta : Option DPMetadataForPadding) (hfirst : F.model.isFirstRank = true)
    (hstart : F.model.startLayer = 0) {inputsEmbeds : Local (List α)} {X : Nat → List α}
    (hE : S.OkOn inputsEmbeds fun r _ => X r) (hX : ∀ r < S.dpSize, (X r).length = counts.getD r 0)
    (intermediateTensors : Local (List α × Option (List α))) :
    ∃ z, F.forward S ops meta (prefixSums (counts.map (↑))) isPrefill inputsEmbeds intermediateTensors =
        (if isPrefill || !S.enableGraphMode then some (planOf S.tpSize counts) else meta, .ok z) ∧
      S.OkOn z fun r t => if F.model.isLastRank then
          .hiddenStates ((F.model.streams S ops counts isPrefill F.model.layerRange X r).map ops.norm)
        else .intermediateTensors (F.model.streams S ops counts isPrefill F.model.layerRange X r)
          (F.model.pairAt S counts F.model.endLayer
            (F.model.streams S ops counts isPrefill F.model.layerRange X) r t).2 := by
  have hne : counts ≠ [] := by rintro rfl; have := S.dpSize_pos; simp at hdp; omega
  have hx : F.model.Represents S counts F.model.startLayer
      (if F.model.isFirstRank then inputsEmbeds.map fun _ _ h => (h, none) else intermediateTensors) X :=
    ⟨hX, by
      rw [if_pos hfirst, hstart]
      exact (hE.map fun _ _ h => (h, none)).congr fun r _ t _ => by simp [CustomDeepseekV2Model.pairAt,
        CustomDeepseekV2Model.carriesResidual]⟩
  cases hmode : isPrefill || !S.enableGraphMode
  · -- a graph-mode decode pass keeps the stored plan, which no layer reads without DP
    have hdp1 := (hc.mode.resolve_left (Bool.eq_false_iff.mp hmode)).1
    obtain ⟨z, hz, hv⟩ := F.model.forward_streams ops counts hc hdp meta (fun h => absurd h (by omega)) hx
    exact ⟨z, by rw [forward, if_neg (Bool.eq_false_iff.mp hmode)]; exact Prod.ext rfl hz, hv⟩
  · obtain ⟨z, hz, hv⟩ := F.model.forward_streams ops counts hc hdp _ (fun _ => rfl) hx
    exact ⟨z, by rw [forward, if_pos hmode, build_prefixSums S.tpSize_pos hdp hne]; exact Prod.ext rfl hz, hv⟩

def passOps : ModelOps ℚ :=
  ⟨fun _ => ⟨id, id, fun _ _ x => x, fun _ _ _ => rfl, fun _ _ => id, fun _ _ => id, fun _ _ x => x, fun _ _ _ => rfl⟩,
    id⟩

def moeStack : CustomDeepseekV2ForCausalLM := ⟨⟨firstMoeLayer.config, 0, 2, true, true, true⟩⟩

theorem forward_covered_two_one :
    moeStack.model.Covered twoByTwo true ∧ [2, 1].length = twoByTwo.dpSize ∧ moeStack.model.isFirstRank = true ∧
      moeStack.model.startLayer = 0 ∧
      twoByTwo.OkOn (fun r _ => .ok (List.replicate ([2, 1].getD r 0) (1 : ℚ)))
        (fun r _ => List.replicate ([2, 1].getD r 0) 1) ∧
      (∀ r < twoByTwo.dpSize, (List.replicate ([2, 1].getD r 0) (1 : ℚ)).length = [2, 1].getD r 0) ∧
      ∃ z, moeStack.forward twoByTwo passOps none (prefixSums ([2, 1].map (↑))) true
          (fun r _ => .ok (List.replicate ([2, 1].getD r 0) 1)) (fun _ _ => .ok ([], none)) =
          (if true || !twoByTwo.enableGraphMode then some (planOf twoByTwo.tpSize [2, 1]) else none, .ok z) ∧
        twoByTwo.OkOn z fun r t => if moeStack.model.isLastRank then
            .hiddenStates ((moeStack.model.streams twoByTwo passOps [2, 1] true moeStack.model.layerRange
              (fun r => List.replicate ([2, 1].getD r 0) 1) r).map passOps.norm)
          else .intermediateTensors (moeStack.model.streams twoByTwo passOps [2, 1] true moeStack.model.layerRange
              (fun r => List.replicate ([2, 1].getD r 0) 1) r)
            (moeStack.model.pairAt twoByTwo [2, 1] moeStack.model.endLayer (moeStack.model.streams twoByTwo passOps
              [2, 1] true moeStack.model.layerRange (fun r => List.replicate ([2, 1].getD r 0) 1)) r t).2 := by
  have hc : moeStack.model.Covered twoByTwo true :=
    ⟨.inl rfl, rfl, rfl, fun _ _ _ _ => rfl, fun i _ _ _ _ => by simp [isMoe, moeStack, firstMoeLayer, Nat.mod_one], by decide,
      le_rfl⟩
  exact ⟨hc, rfl, rfl, rfl, fun _ _ _ _ => rfl, fun _ _ => List.length_replicate _ _,
    forward_covered moeStack passOps hc (show [2, 1].length = twoByTwo.dpSize from rfl) none rfl rfl (fun _ _ _ _ => rfl) (fun _ _ => List.length_replicate _ _) _⟩

def mc2Pair : Setup := ⟨1, 2, by decide, by decide, false, true, false, false, 2⟩

def moeModel : CustomDeepseekV2ForCausalLM := ⟨⟨⟨1, 0, 1, some 2, some 1, 1, "silu", 2, none⟩, 0, 1, true, true, true⟩⟩

/-- An eager decode pass of one token with MC2 on two TP ranks: the model builds, TP rank 1 finds no
    piece of the one row in the routed experts and raises, TP rank 0 goes on, and the WP all-reduce of
    `post_moe_process` is reached by one of its members only. -/
theorem forward_mc2_one_token :
    moeModel.model.init mc2Pair.tpSize = .ok [moeModel.model.layer 0] ∧
      CustomDeepseekV2MoE.forward mc2Pair (passOps.layers 0) moeModel.model.config false (fun _ _ => .ok [1]) 0 1 =
        .error (.indexOutOfRange 1 1) ∧
      (moeModel.forward mc2Pair passOps none [1] false (fun _ _ => .ok [1]) fun _ _ => .ok ([], none)).2 =
        .error (.diverged .wp .allReduce) :=
  ⟨rfl, rfl, by with_unfolding_all rfl⟩

def dpPair : Setup := ⟨2, 1, by decide, by decide, false, false, false, false, 1⟩

def denseStage : CustomDeepseekV2ForCausalLM := ⟨⟨⟨1, 0, 1, none, none, 1, "silu", 2, none⟩, 0, 1, true, false, true⟩⟩

/-- A prefill pass of one token on each of two DP ranks through a dense layer at `first_k_dense_replace`:
    the layer adds the one-row residual piece to the two rows of the gathered batch, and each DP rank hands
    on two rows. -/
theorem forward_dense_dp :
    ((denseStage.forward dpPair passOps none [1, 2] true (fun r _ => .ok [(r : ℚ) + 1])
        fun _ _ => .ok ([], none)).2.map fun z => (z 0 0, z 1 0)) =
      .ok (.ok (.intermediateTensors [4, 6] none), .ok (.intermediateTensors [6, 8] none)) := by
  with_unfolding_all rfl

def signNorm (v : ℚ) : ℚ := if 0 < v then 1 else if v < 0 then -1 else 0

def halvingOps : ModelOps ℚ :=
  ⟨fun _ => ⟨signNorm, signNorm, fun _ _ x => x.map fun _ => 0, fun _ _ _ => List.length_map _ _,
    fun _ _ v => -(v / 2), fun _ _ _ => 0, fun _ _ x => x, fun _ _ _ => rfl⟩, signNorm⟩

def scaledDenseModel : CustomDeepseekV2ForCausalLM := ⟨⟨⟨1, 1, 1, none, none, 2, "silu", 2, none⟩, 0, 1, true, true, true⟩⟩

/-- On one rank, a prefill pass of the stream `[1]` ends in the row `1` without fp16 activations and in
    the row `0` with them: the guard scales the residual at layer 0 but not the MLP output, which reads
    the normed rows. -/
theorem forward_fp16_guard :
    (∀ c v : ℚ, 0 < c → signNorm (c * v) = signNorm v) ∧
      ((scaledDenseModel.forward (oneRank false) halvingOps none [1] true (fun _ _ => .ok [1])
        fun _ _ => .ok ([], none)).2.map fun z => z 0 0) = .ok (.ok (.hiddenStates [1])) ∧
      ((scaledDenseModel.forward (oneRank true) halvingOps none [1] true (fun _ _ => .ok [1])
        fun _ _ => .ok ([], none)).2.map fun z => z 0 0) = .ok (.ok (.hiddenStates [0])) := by
  refine ⟨fun c v hc => ?_, by with_unfolding_all rfl, by with_unfolding_all rfl⟩
  rcases lt_trichotomy v 0 with hv | rfl | hv
  · have := mul_neg_of_pos_of_neg hc hv
    simp [signNorm, hv, this, hv.not_lt, this.not_lt]
  · simp
  · have := mul_pos hc hv
    simp [signNorm, hv, this]

end CustomDeepseekV2ForCausalLM

end DeepseekAscend
