import DeepseekAscend.Layer

/-! The layer stack of a pipeline stage and the forward pass that builds the padding plan.

`CustomDeepseekV2Model.forward` threads `(hidden_states, residual)` through the layers
`start_layer .. end_layer` of its stage; the last stage applies the final norm, the others hand the pair
on. `CustomDeepseekV2ForCausalLM.forward` first rebuilds `_dp_metadata_for_padding` from the DP runner's
cumulative counts in a prefill or eager pass, and keeps the stored plan in a graph-mode decode pass.
`CustomDeepseekV3ForCausalLM` adds nothing. The embedding of `input_ids` is out of scope: the first stage
starts from the embeddings of its tokens. -/

namespace DeepseekAscend

open DPMetadataForPadding

variable {α : Type}

/-- What a stage returns on a rank. -/
inductive StageOutput (α : Type) where
  | hiddenStates (h : List α)
  | intermediateTensors (hiddenStates : List α) (residual : Option (List α))
  deriving DecidableEq, Repr

/-- The opaque compute of the model: every layer's, and the final norm. -/
structure ModelOps (α : Type) where
  layers : Nat → LayerOps α
  norm : α → α

/-- The stage of `CustomDeepseekV2Model` on this pipeline rank. -/
structure CustomDeepseekV2Model where
  config : PretrainedConfig
  startLayer : Nat
  endLayer : Nat
  /-- `get_pp_group().is_first_rank`. -/
  isFirstRank : Bool
  /-- `get_pp_group().is_last_rank`. -/
  isLastRank : Bool
  /-- `model_config.use_mla`, which picks the attention class of the layers. -/
  useMla : Bool
  deriving DecidableEq, Repr

namespace CustomDeepseekV2Model

variable (M : CustomDeepseekV2Model)

/-- The indices `start_layer .. end_layer` of the stage. -/
def layerRange : List Nat := List.range' M.startLayer (M.endLayer - M.startLayer)

/-- `make_layers` builds the layers of the stage; the first that raises stops the construction. -/
def init (tpSize : Nat) : Except Error (List CustomDeepseekV2DecoderLayer) :=
  M.layerRange.mapM (CustomDeepseekV2DecoderLayer.init M.config M.useMla tpSize)

/-- Layer `i` of the stage. -/
def layer (i : Nat) : CustomDeepseekV2DecoderLayer := ⟨M.config, i⟩

@[simp] theorem layer_config (i : Nat) : (M.layer i).config = M.config := rfl

@[simp] theorem layer_layerIdx (i : Nat) : (M.layer i).layerIdx = i := rfl

section Forward
variable (S : Setup) [AddCommMonoid α] [SMul ℚ α] (ops : ModelOps α) (meta : Option DPMetadataForPadding)
  (isPrefill : Bool)

/-- The loop over the layers of the stage. -/
def runLayers : List Nat → Local (List α × Option (List α)) → Spmd (Local (List α × Option (List α)))
  | [], x => pure x
  | i :: is, x => do
    let x ← (M.layer i).forward S (ops.layers i) meta isPrefill x
    runLayers is x

/-- `CustomDeepseekV2Model.forward` on the grid: the first stage starts from the embeddings with no
    residual, a later one from the pair of the stage before. -/
def forward (inputsEmbeds : Local (List α)) (intermediateTensors : Local (List α × Option (List α))) :
    Spmd (Local (StageOutput α)) := do
  let x := if M.isFirstRank then inputsEmbeds.map fun _ _ h => (h, none) else intermediateTensors
  let x ← M.runLayers S ops meta isPrefill M.layerRange x
  if !M.isLastRank then pure (x.map fun _ _ x => .intermediateTensors x.1 x.2)
  else pure (x.map fun _ _ x => .hiddenStates (x.1.map ops.norm))

end Forward

end CustomDeepseekV2Model

/-- `CustomDeepseekV2ForCausalLM` around the stage of its pipeline rank. -/
structure CustomDeepseekV2ForCausalLM where
  model : CustomDeepseekV2Model
  deriving DecidableEq, Repr

namespace CustomDeepseekV2ForCausalLM

variable (F : CustomDeepseekV2ForCausalLM) (S : Setup) [AddCommMonoid α] [SMul ℚ α] (ops : ModelOps α)

/-- `CustomDeepseekV2ForCausalLM.forward` from the global `_dp_metadata_for_padding` before the pass and
    the DP runner's `cu_tokens_across_dp_cpu`, which every rank sees alike: the global after the pass, and
    the stage's output. A prefill or eager pass stores the plan it builds from the counts (building it on
    every rank, it raises on every rank alike). -/
def forward (meta : Option DPMetadataForPadding) (cu : List Int) (isPrefill : Bool)
    (inputsEmbeds : Local (List α)) (intermediateTensors : Local (List α × Option (List α))) :
    Option DPMetadataForPadding × Spmd (Local (StageOutput α)) :=
  if isPrefill || !S.enableGraphMode then
    match build S.dpSize S.tpSize cu with
    | .ok m => (some m, F.model.forward S ops (some m) isPrefill inputsEmbeds intermediateTensors)
    | .error e => (meta, pure fun _ _ => .error e)
  else (meta, F.model.forward S ops meta isPrefill inputsEmbeds intermediateTensors)

end CustomDeepseekV2ForCausalLM

end DeepseekAscend
