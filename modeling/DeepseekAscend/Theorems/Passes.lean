import DeepseekAscend.Model

/-! The padding plan across passes (§3, mutable shared state).

`_dp_metadata_for_padding` outlives a call of `CustomDeepseekV2ForCausalLM.forward`: a prefill or eager
pass replaces it, and a graph-mode decode pass keeps the plan an earlier pass stored. The padding functions
that read it are called only by the sharded branches of `post_attention_process` and `post_moe_process`,
which a pass takes only with DP and only in a prefill or eager pass, after the pass has replaced the plan.
So the plan a pass leaves behind never reaches a later pass: every pass of a run gives what it gives as the
first pass of a fresh process. -/

namespace DeepseekAscend
open DPMetadataForPadding

variable {α : Type}

namespace CustomDeepseekV2DecoderLayer
variable [AddCommMonoid α] (L : CustomDeepseekV2DecoderLayer) (S : Setup) (ops : LayerOps α) {isPrefill : Bool}
  (h : (isPrefill || !S.enableGraphMode) = false ∨ S.dpSize ≤ 1) (meta meta' : Option DPMetadataForPadding)
include h

theorem postAttentionProcess_of_stored (hidden residual : Local (List α)) :
    L.postAttentionProcess S ops meta hidden residual isPrefill =
      L.postAttentionProcess S ops meta' hidden residual isPrefill := by
  rcases h with h | h <;> simp [postAttentionProcess, h]

theorem postMoeProcess_of_stored (sharedOutput : Local (Option (List α))) (hidden residual : Local (List α)) :
    L.postMoeProcess S ops meta sharedOutput hidden residual isPrefill =
      L.postMoeProcess S ops meta' sharedOutput hidden residual isPrefill := by
  rcases h with h | h <;> simp [postMoeProcess, h]

/-- In a graph-mode decode pass, and in any pass without DP, a layer reads no padding plan. -/
theorem forward_of_stored [SMul ℚ α] (x : Local (List α × Option (List α))) :
    L.forward S ops meta isPrefill x = L.forward S ops meta' isPrefill x := by
  simp only [forward, moeFullyConnected, L.postAttentionProcess_of_stored S ops h meta meta',
    L.postMoeProcess_of_stored S ops h meta meta']

end CustomDeepseekV2DecoderLayer

namespace CustomDeepseekV2Model
variable [AddCommMonoid α] [SMul ℚ α] (M : CustomDeepseekV2Model) (S : Setup) (ops : ModelOps α) {isPrefill : Bool}
  (h : (isPrefill || !S.enableGraphMode) = false ∨ S.dpSize ≤ 1) (meta meta' : Option DPMetadataForPadding)
include h

theorem runLayers_of_stored :
    ∀ (is : List Nat) (x : Local (List α × Option (List α))),
      M.runLayers S ops meta isPrefill is x = M.runLayers S ops meta' isPrefill is x
  | [], _ => rfl
  | i :: is, x => by
    simp only [runLayers, (M.layer i).forward_of_stored S (ops.layers i) h meta meta',
      runLayers_of_stored is]

theorem forward_of_stored (inputsEmbeds : Local (List α)) (intermediateTensors : Local (List α × Option (List α))) :
    M.forward S ops meta isPrefill inputsEmbeds intermediateTensors =
      M.forward S ops meta' isPrefill inputsEmbeds intermediateTensors := by
  simp only [forward, M.runLayers_of_stored S ops h meta meta']

end CustomDeepseekV2Model

namespace CustomDeepseekV2ForCausalLM
variable [AddCommMonoid α] [SMul ℚ α] (F : CustomDeepseekV2ForCausalLM) (S : Setup) (ops : ModelOps α)

/-- The result of a pass is the same whatever plan an earlier pass stored, or none. -/
theorem forward_snd_of_stored (meta meta' : Option DPMetadataForPadding) (cu : List Int) (isPrefill : Bool)
    (inputsEmbeds : Local (List α)) (intermediateTensors : Local (List α × Option (List α))) :
    (F.forward S ops meta cu isPrefill inputsEmbeds intermediateTensors).2 =
      (F.forward S ops meta' cu isPrefill inputsEmbeds intermediateTensors).2 := by
  cases hmode : isPrefill || !S.enableGraphMode
  · simpa only [forward, hmode] using F.model.forward_of_stored S ops (.inl hmode) meta meta' _ _
  · simp only [forward, hmode, if_true]
    split <;> rfl

/-- A call of `forward` by the runner: the cumulative token counts of the DP ranks, whether the pass is a
    prefill, and the inputs of the stage. -/
structure Pass (α : Type) where
  cuTokensAcrossDpCpu : List Int
  isPrefill : Bool
  inputsEmbeds : Local (List α)
  intermediateTensors : Local (List α × Option (List α))

/-- Successive calls of `forward` in one process, each finding the plan the previous one stored in
    `_dp_metadata_for_padding`: the result of every call. -/
def run (meta : Option DPMetadataForPadding) : List (Pass α) → List (Spmd (Local (StageOutput α)))
  | [] => []
  | p :: ps =>
    let out := F.forward S ops meta p.cuTokensAcrossDpCpu p.isPrefill p.inputsEmbeds p.intermediateTensors
    out.2 :: run out.1 ps

/-- Every call of a run gives what it gives as the first call of a fresh process, where no plan is stored:
    the module global carries nothing from one pass to the next. -/
theorem run_eq_map_forward (meta : Option DPMetadataForPadding) :
    ∀ ps : List (Pass α), F.run S ops meta ps =
      ps.map fun p => (F.forward S ops none p.cuTokensAcrossDpCpu p.isPrefill p.inputsEmbeds p.intermediateTensors).2
  | [] => rfl
  | p :: ps => by
    rw [run, List.map_cons, F.forward_snd_of_stored S ops meta none, run_eq_map_forward _ ps]

end CustomDeepseekV2ForCausalLM

end DeepseekAscend
