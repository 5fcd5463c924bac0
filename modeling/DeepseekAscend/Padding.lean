import DeepseekAscend.Tensor

/-! The padding plan of a forward pass and the four functions that read it (§3 PaddingPlan, §4.1).

`CustomDeepseekV2ForCausalLM.forward` differences the cumulative token counts of the DP ranks into
`lengths`, rounds their maximum up to a multiple of the TP width, and builds the keep-mask of the
`dp_size × max_length` padded layout. The plan lives in the module global `_dp_metadata_for_padding`,
modelled as an `Option` that the padding functions read. Tensor entries (`lengths`, `pad_size`) are
integers as in torch, so that the subtraction of cumulative counts may go negative on inputs the DP
runner never gives. -/

namespace DeepseekAscend

/-- `DPMetadataForPadding`. -/
structure DPMetadataForPadding where
  cuTokensAcrossDpCpu : List Int
  lengths : List Int
  maxLength : Int
  padSize : List Int
  attenUnpadMask : List Bool
  deriving DecidableEq, Repr

namespace DPMetadataForPadding

/-- `(torch.arange(max_length).expand(dp_size, max_length) < lengths.view(-1, 1)).view(-1)`. The
    comparison broadcasts a single length over every row, or a single row over every length. -/
def unpadMask (dpSize : Nat) (lengths : List Int) (maxLength : Int) : Except Error (List Bool) :=
  if maxLength < 0 then .error .negativeSize
  else if lengths.length = dpSize ∨ lengths.length = 1 ∨ dpSize = 1 then
    .ok ((List.range (max dpSize lengths.length)).flatMap fun r =>
      (List.range maxLength.toNat).map fun (j : Nat) => decide ((j : Int) < lengths.getD (r % lengths.length) 0))
  else .error (.sizeMismatch dpSize lengths.length)

/-- The plan of `CustomDeepseekV2ForCausalLM.forward`, from `cu_tokens_across_dp_cpu`. Python's `//` is
    floor division, `Int.fdiv`. -/
def build (dpSize tpSize : Nat) (cu : List Int) : Except Error DPMetadataForPadding := do
  let lengths := cu.take 1 ++ List.zipWith (· - ·) cu.tail cu.dropLast
  let some maxLength := lengths.max? | .error .emptyReduction
  let maxLength := Int.fdiv (maxLength + tpSize - 1) tpSize * tpSize
  let padSize := lengths.map fun l => -(l - maxLength)
  let attenUnpadMask ← unpadMask dpSize lengths maxLength
  pure ⟨cu, lengths, maxLength, padSize, attenUnpadMask⟩

/-- Reading `_dp_metadata_for_padding.field`, which is None until a pass has set the plan. -/
def read (meta : Option DPMetadataForPadding) (field : String) : Except Error DPMetadataForPadding :=
  match meta with
  | some m => .ok m
  | none => .error (.noAttribute field)

@[simp] theorem read_some (m : DPMetadataForPadding) (field : String) : read (some m) field = .ok m := rfl

end DPMetadataForPadding

open DPMetadataForPadding

variable {α : Type} [Zero α]

/-- `padding_aligned_tp`: the rows of rank `dp_rank` followed by `pad_size[dp_rank]` zero rows. -/
def paddingAlignedTp (meta : Option DPMetadataForPadding) (dpRank : Nat) (data : List α) :
    Except Error (List α) := do
  let padSize ← getItem (← read meta "pad_size").padSize dpRank
  if padSize = 0 then pure data else padRows data padSize

/-- Both branches of `padding_aligned_tp` append the `p` pad rows of the rank. -/
theorem paddingAlignedTp_eq {m : DPMetadataForPadding} {dpRank p : Nat}
    (h : m.padSize[dpRank]? = some (p : Int)) (data : List α) :
    paddingAlignedTp (some m) dpRank data = .ok (data ++ List.replicate p 0) := by
  have hr : dpRank < m.padSize.length := (List.getElem?_eq_some_iff.mp h).1
  have hp : m.padSize[dpRank] = p := (List.getElem?_eq_some_iff.mp h).2
  by_cases h0 : p = 0 <;> simp [paddingAlignedTp, getItem_of_lt hr, hp, h0]

/-- The loop of `padding_aligned_wp`: rank by rank, `seq_len` rows of `data` from `padded_starts` are
    copied to `merged_data[current_pos:current_pos + seq_len]`; then `current_pos` moves by `max_length`
    and `padded_starts` by `seq_len`. -/
def paddingAlignedWp.loop (maxLength : Int) (data : List α) :
    List Int → List α → Int → Int → Except Error (List α)
  | [], mergedData, _, _ => pure mergedData
  | seqLen :: lengths, mergedData, paddedStarts, currentPos => do
    let mergedData ← setSlice mergedData currentPos (currentPos + seqLen)
      (pySlice data paddedStarts (paddedStarts + seqLen))
    loop maxLength data lengths mergedData (paddedStarts + seqLen) (currentPos + maxLength)

/-- `padding_aligned_wp`: a tensor packed rank after rank, laid out in windows of `max_length` rows.
    Its two unused arguments (`is_prefill`, `layer_idx`) are left out. -/
def paddingAlignedWp (meta : Option DPMetadataForPadding) (data : List α) : Except Error (List α) := do
  let m ← read meta "lengths"
  let mergedData ← zeros (m.maxLength * m.lengths.length)
  paddingAlignedWp.loop m.maxLength data m.lengths mergedData 0 0

/-- `unpadding_aligned_tp`: the rows the keep-mask keeps. -/
def unpaddingAlignedTp {β : Type} (meta : Option DPMetadataForPadding) (paddedData : List β) :
    Except Error (List β) := do
  maskSelect paddedData (← read meta "atten_unpad_mask").attenUnpadMask

/-- `unpadding_aligned_wp`: the first `lengths[dp_rank]` rows of window `dp_rank`. -/
def unpaddingAlignedWp {β : Type} (meta : Option DPMetadataForPadding) (dpRank : Nat) (paddedData : List β) :
    Except Error (List β) := do
  let m ← read meta "lengths"
  let seqLen ← getItem m.lengths dpRank
  pure (pySlice paddedData (m.maxLength * dpRank) (m.maxLength * dpRank + seqLen))

end DeepseekAscend
