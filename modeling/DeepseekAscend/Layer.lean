import DeepseekAscend.Collective
import DeepseekAscend.Padding
import Mathlib.Data.Rat.Defs

/-! One decoder layer on the whole grid: `CustomDeepseekV2DecoderLayer` with its MLPs and its MoE block.

The compute of a layer is opaque (`LayerOps`): the norms act row by row; the attention of a rank gives
the TP-partial output of its heads, one row per token; the dense MLP, the shared experts and the routed
experts of a rank give its partial contribution, which the collectives of the layer code sum. What the
layer code itself decides is modelled as the code does it: which branch a pass takes, where it pads,
reduces, scatters, gathers and unpads, which tensors it adds, and where it raises. -/

namespace DeepseekAscend

open DPMetadataForPadding

variable {α : Type}

/-- The fields of the model's `PretrainedConfig` that the layer code reads. -/
structure PretrainedConfig where
  numHiddenLayers : Nat
  firstKDenseReplace : Nat
  moeLayerFreq : Nat
  nRoutedExperts : Option Nat
  nSharedExperts : Option Nat
  routedScalingFactor : ℚ
  hiddenAct : String
  numAttentionHeads : Nat
  /-- The keys of `getattr(config, "rope_scaling", None)`, none where it is missing or `None`. -/
  ropeScaling : Option (List String)
  deriving DecidableEq, Repr

/-- The opaque compute of one layer on every rank `(r, t)`. -/
structure LayerOps (α : Type) where
  inputLayernorm : α → α
  postAttentionLayernorm : α → α
  /-- `self_attn` on rank `(r, t)`: the TP-partial output of its heads (`o_proj` does not reduce). -/
  selfAttn : Nat → Nat → List α → List α
  selfAttn_length : ∀ r t x, (selfAttn r t x).length = x.length
  /-- The rank's partial dense MLP, before the reduction of `down_proj`. -/
  mlp : Nat → Nat → α → α
  /-- The rank's partial shared-expert MLP. -/
  sharedExperts : Nat → Nat → α → α
  /-- `AscendFusedMoE` on rank `(r, t)`, built with `reduce_results=False`. -/
  experts : Nat → Nat → List α → List α
  experts_length : ∀ r t x, (experts r t x).length = x.length

/-- Python's `a / b` on floats. -/
def trueDiv (a b : ℚ) : Except Error ℚ := if b = 0 then .error .zeroDivision else .ok (a / b)

/-- `None + tensor` raises; a tensor is added as `add`. -/
def addOpt [Add α] : Option (List α) → List α → Except Error (List α)
  | some a, b => add a b
  | none, _ => .error .noneOperand

/-- `RMSNorm.forward(h, residual)`, the fused form: `(norm(h + residual), h + residual)`, row by row. -/
def addRmsNorm [Add α] (norm : α → α) (h residual : List α) : Except Error (List α × List α) := do
  let s ← add h residual
  pure (s.map norm, s)

/-- `self.dp_rank` of rank `(r, t)`. -/
def Setup.dpRank (S : Setup) (r : Nat) : Nat := if S.dpSize = 1 then 0 else r

theorem Setup.dpRank_of_one_lt {S : Setup} (h : 1 < S.dpSize) (r : Nat) : S.dpRank r = r :=
  if_neg (by omega)

theorem addRmsNorm_of_length_eq [Add α] (norm : α → α) {h residual : List α} (hl : h.length = residual.length) :
    addRmsNorm norm h residual =
      .ok ((List.zipWith (· + ·) h residual).map norm, List.zipWith (· + ·) h residual) := by
  simp [addRmsNorm, add_of_length_eq hl]

/-! ### The MLPs -/

section MLP
variable [AddCommMonoid α] (S : Setup) (ops : LayerOps α)

/-- `CustomDeepseekV2MLP.forward` with `reduce_results=True`: the partial MLP, summed over TP by
    `RowParallelLinear` or, on the dynamic-quant path, by the code, when `tp_size > 1`. -/
def CustomDeepseekV2MLP.forward (x : Local (List α)) : Spmd (Local (List α)) :=
  let y := x.map fun r t x => x.map (ops.mlp r t)
  if 1 < S.tpSize then S.collective .tp .allReduce y else pure y

/-- `CustomDeepseekV2SharedExpertMLP.forward`: its `down_proj` is built with `reduce_results=False`, and
    only the dynamic-quant path, called with `reduce_results`, sums over TP. -/
def CustomDeepseekV2SharedExpertMLP.forward (reduceResults : Bool) (x : Local (List α)) : Spmd (Local (List α)) :=
  let y := x.map fun r t x => x.map (ops.sharedExperts r t)
  if S.isDynamicQuant && reduceResults && 1 < S.wpLinearTpSize then S.collective .tp .allReduce y else pure y

/-- `CustomDeepseekV2MoE.forward`: with MC2 in a decode pass and `tp_size > 1` a rank keeps its own piece
    of `torch.chunk`; the routed experts' output is multiplied by `routed_scaling_factor`. -/
def CustomDeepseekV2MoE.forward [SMul ℚ α] (config : PretrainedConfig) (isPrefill : Bool) (x : Local (List α)) :
    Local (List α) :=
  x.bind fun r t h => do
    let h ← if S.enableMc2 && !isPrefill && 1 < S.tpSize then getItem (chunk h S.tpSize) t else pure h
    pure ((ops.experts r t h).map (config.routedScalingFactor • ·))

end MLP

/-! ### The decoder layer -/

/-- A constructed `CustomDeepseekV2DecoderLayer`: its config and its index in the stack. -/
structure CustomDeepseekV2DecoderLayer where
  config : PretrainedConfig
  layerIdx : Nat
  deriving DecidableEq, Repr

namespace CustomDeepseekV2DecoderLayer

/-- `self.is_moe`; `init` has raised where the modulus is zero. -/
def isMoe (L : CustomDeepseekV2DecoderLayer) : Bool :=
  L.config.nRoutedExperts.isSome && decide (L.config.firstKDenseReplace ≤ L.layerIdx) &&
    L.layerIdx % L.config.moeLayerFreq == 0

/-- `Unsupported activation` of the MLP constructors. -/
def checkHiddenAct (hiddenAct : String) : Except Error Unit :=
  if hiddenAct ≠ "silu" then
    .error (.valueError ("Unsupported activation: " ++ hiddenAct ++ ". Only silu is supported for now."))
  else pure ()

/-- The checks of `CustomDeepseekV2MLAAttention.__init__`: `assert num_heads % tp_size == 0`, and a
    `rope_scaling` dict that is not empty is read at `"factor"` (the `rope_type` it writes into the dict first
    changes neither). `get_rope` and `Attention` are vllm's and are taken to raise nothing. -/
def checkMlaAttention (config : PretrainedConfig) (tpSize : Nat) : Except Error Unit :=
  if config.numAttentionHeads % tpSize ≠ 0 then .error .assertionError
  else match config.ropeScaling with
    | some keys => if keys ≠ [] ∧ "factor" ∉ keys then .error (.keyError "factor") else pure ()
    | none => pure ()

/-- The checks of `__init__` that the layer code makes, in order: the attention constructor (with
    `model_config.use_mla` the MLA one of this file; `DeepseekV2Attention` is vllm's and is taken to raise nothing),
    `is_moe` (a zero `moe_layer_freq` raises once the first two operands hold), then the MoE's or the
    dense MLP's constructor. -/
def init (config : PretrainedConfig) (useMla : Bool) (tpSize layerIdx : Nat) :
    Except Error CustomDeepseekV2DecoderLayer :=
  (if useMla then checkMlaAttention config tpSize else pure ()) >>= fun _ => do
    let L : CustomDeepseekV2DecoderLayer := ⟨config, layerIdx⟩
    match config.nRoutedExperts with
    | some n =>
      if config.firstKDenseReplace ≤ layerIdx then
        if config.moeLayerFreq = 0 then .error .zeroDivision
        else if layerIdx % config.moeLayerFreq = 0 then
          if n < tpSize then
            .error (.valueError ("Tensor parallel size " ++ toString tpSize ++
              " is greater than the number of experts " ++ toString n ++ "."))
          else
            checkHiddenAct config.hiddenAct
            pure L
        else
          checkHiddenAct config.hiddenAct
          pure L
      else
        checkHiddenAct config.hiddenAct
        pure L
    | none =>
      checkHiddenAct config.hiddenAct
      pure L

section Forward
variable (L : CustomDeepseekV2DecoderLayer) (S : Setup) [AddCommMonoid α] (ops : LayerOps α)
  (meta : Option DPMetadataForPadding)

/-- The residual of TP rank `t` beside the reduce-scattered rows `h` in `post_attention_process`: at
    `first_k_dense_replace` it is padded to `tp_size` pieces of `h`'s size and the rank's piece is taken;
    a later layer already holds its piece. -/
def sliceResidual (t : Nat) (h residual : List α) : Except Error (List α) :=
  if L.layerIdx = L.config.firstKDenseReplace then do
    let reduceScatterTokens := h.length
    let residual ← padRows residual ((reduceScatterTokens * S.tpSize : Nat) - residual.length : Int)
    let start := t * reduceScatterTokens
    pure (pySlice residual start (start + reduceScatterTokens : Nat))
  else pure residual

/-- `post_attention_process`. In a prefill or eager pass a layer before `first_k_dense_replace`, or any
    layer without DP, all-reduces over TP; otherwise the rank pads its tokens to `max_length`,
    reduce-scatters them over TP, takes the matching piece of the residual at `first_k_dense_replace`,
    and all-gathers the normed rows over WP before unpadding. A graph-mode decode pass all-reduces over
    TP and, without MC2, all-gathers over DP. -/
def postAttentionProcess (h residual : Local (List α)) (isPrefill : Bool) : Spmd (Local (List α × List α)) :=
  if isPrefill || !S.enableGraphMode then
    if S.dpSize ≤ 1 || decide (L.layerIdx < L.config.firstKDenseReplace) then do
      let h ← S.collective .tp .allReduce h
      pure (h.zip residual fun _ _ h residual => addRmsNorm ops.postAttentionLayernorm h residual)
    else do
      let h ← S.collective .tp .reduceScatter (h.bind fun r _ h => paddingAlignedTp meta (S.dpRank r) h)
      let x := h.zip residual fun _ t h residual => do
        addRmsNorm ops.postAttentionLayernorm h (← L.sliceResidual S t h residual)
      let h ← S.collective .wp .allGather (x.map fun _ _ => Prod.fst)
      pure ((h.bind fun _ _ h => unpaddingAlignedTp meta h).zip x fun _ _ h x => pure (h, x.2))
  else do
    let h ← (if 1 < S.tpSize then S.collective .tp .allReduce h else pure h)
    let h ← (if S.enableGraphMode && !S.enableMc2 then S.collective .dp .allGather h else pure h)
    pure (h.zip residual fun _ _ h residual => addRmsNorm ops.postAttentionLayernorm h residual)

/-- `post_moe_process`. In a prefill or eager pass the shared output is added to the MoE output; without
    DP the sum is all-reduced over WP and returned alone. With DP it is laid out in windows, reduce-scattered
    over WP, added to the residual piece, all-gathered over WP and unpadded; the last layer of the model
    returns no residual. A graph-mode decode pass with MC2 calls the shared experts and then reads
    `self.params_dtype`, which the layer does not have; without MC2 it all-reduces over WP and adds the
    residual. -/
def postMoeProcess (sharedOutput : Local (Option (List α))) (h residual : Local (List α)) (isPrefill : Bool) :
    Spmd (Local (List α × Option (List α))) :=
  if isPrefill || !S.enableGraphMode then
    let h := sharedOutput.zip h fun _ _ s h => addOpt s h
    if S.dpSize ≤ 1 then do
      let h ← S.collective .wp .allReduce h
      pure (h.map fun _ _ h => (h, none))
    else do
      let h ← S.collective .wp .reduceScatter (h.bind fun _ _ h => paddingAlignedWp meta h)
      let h := h.zip residual fun _ _ h residual => add h residual
      let g ← S.collective .wp .allGather h
      pure ((g.bind fun r _ g => unpaddingAlignedWp meta (S.dpRank r) g).zip h fun _ _ g residual =>
        pure (g, if (L.layerIdx : Int) = L.config.numHiddenLayers - 1 then none else some residual))
  else if S.enableMc2 then
    if L.config.nSharedExperts.isSome then do
      let s ← CustomDeepseekV2SharedExpertMLP.forward S ops true h
      pure (s.bind fun _ _ _ => .error (.noAttribute "params_dtype"))
    else pure (h.bind fun _ _ _ => .error .noneCallable)
  else do
    let h ← S.collective .wp .allReduce (sharedOutput.zip h fun _ _ s h => addOpt s h)
    pure (h.zip residual fun _ _ h residual => return (← add h residual, none))

/-- The self-attention half of `forward` on rank `(r, t)`: the stream is the residual when there is none;
    with fp16 activations the attention output, and at layer 0 the residual, are scaled by
    `1 / routed_scaling_factor`. -/
def attend [SMul ℚ α] (r t : Nat) (x : List α × Option (List α)) : Except Error (List α × List α) := do
  let residual := x.2.getD x.1
  let h := ops.selfAttn r t (x.1.map ops.inputLayernorm)
  if S.isFp16 then do
    let c ← trueDiv 1 L.config.routedScalingFactor
    pure (h.map (c • ·), if L.layerIdx = 0 then residual.map (c • ·) else residual)
  else pure (h, residual)

/-- The fully connected half of `forward` in a MoE layer: the shared experts (when the config has them) and
    the routed experts on the normed rows, their sum, and `post_moe_process`. -/
def moeFullyConnected [SMul ℚ α] (isPrefill : Bool) (h residual : Local (List α)) :
    Spmd (Local (List α × Option (List α))) := do
  let sharedOutput ← if L.config.nSharedExperts.isSome then do
      let s ← CustomDeepseekV2SharedExpertMLP.forward S ops false h
      pure (s.map fun _ _ => some)
    else pure (h.map fun _ _ _ => none)
  let h := (CustomDeepseekV2MoE.forward S ops L.config isPrefill h).zip sharedOutput fun _ _ h s =>
    match s with
    | some s => add h s
    | none => pure h
  L.postMoeProcess S ops meta sharedOutput h residual isPrefill

/-- The fully connected half of `forward` in a dense layer: the MLP, and the residual added back. -/
def denseFullyConnected (h residual : Local (List α)) : Spmd (Local (List α × Option (List α))) := do
  let h ← CustomDeepseekV2MLP.forward S ops h
  pure (h.zip residual fun _ _ h residual => return (← add h residual, none))

/-- `CustomDeepseekV2DecoderLayer.forward` on the grid: the rank's `(hidden_states, residual)` in and out.
    With fp16 activations the output of a dense layer is scaled by `1 / routed_scaling_factor`. -/
def forward [SMul ℚ α] (isPrefill : Bool) (x : Local (List α × Option (List α))) :
    Spmd (Local (List α × Option (List α))) := do
  let x ← L.postAttentionProcess S ops meta ((x.bind (L.attend S ops)).map fun _ _ => Prod.fst)
    ((x.bind (L.attend S ops)).map fun _ _ => Prod.snd) isPrefill
  let y ← if L.isMoe then L.moeFullyConnected S ops meta isPrefill (x.map fun _ _ => Prod.fst) (x.map fun _ _ => Prod.snd)
    else denseFullyConnected S ops (x.map fun _ _ => Prod.fst) (x.map fun _ _ => Prod.snd)
  if !L.isMoe && S.isFp16 then
    pure (y.bind fun _ _ y => return (y.1.map ((← trueDiv 1 L.config.routedScalingFactor) • ·), y.2))
  else pure y

end Forward

end CustomDeepseekV2DecoderLayer

end DeepseekAscend
