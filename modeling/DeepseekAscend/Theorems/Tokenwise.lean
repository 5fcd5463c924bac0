import DeepseekAscend.Theorems.Stack
import DeepseekAscend.Theorems.Passes

/-! Data parallelism under routed experts that act on each token alone (§4.2, §4.3).

`AscendFusedMoE` routes every token by its own gate scores, so the routed output of a token depends on
that token alone (`LayerOps.Tokenwise`). Then the windows, the WP reduce-scatter and all-gather and the
unpadding of a sharded MoE layer give DP rank `r` what the layer gives its own tokens: its stream plus
the WP sum of what every rank adds from its normed rows (`moeLocalStream`). Neither the tokens of the
other DP ranks nor their number play a part, and over a covered pass the output of a DP rank is a
function of its own tokens. -/

namespace DeepseekAscend
open DPMetadataForPadding CustomDeepseekV2DecoderLayer

variable {α : Type}

/-! ### Blocks of a packed sum -/

theorem splitRows_map {β : Type} (f : α → β) : ∀ (counts : List Nat) (x : List α),
    splitRows counts (x.map f) = (splitRows counts x).map (List.map f)
  | [], _ => rfl
  | c :: counts, x => by simp only [splitRows, List.map_cons, List.map_take, ← List.map_drop, splitRows_map f counts]

/-- Block `r` of a sum of packed tensors is the sum of their blocks `r`. -/
theorem getD_splitRows_sumRows [AddCommMonoid α] : ∀ (counts : List Nat) (xs : List (List α)),
    (∀ x ∈ xs, counts.sum ≤ x.length) → ∀ r,
      (splitRows counts (sumRows counts.sum xs)).getD r [] =
        sumRows (counts.getD r 0) (xs.map fun x => (splitRows counts x).getD r [])
  | [], _, _, _ => by simp [splitRows, sumRows]
  | c :: counts, xs, _, 0 => by
    simpa [splitRows] using (sumRows_take (Nat.le_add_right c counts.sum) xs).symm
  | c :: counts, xs, hxs, r + 1 => by
    have ih := getD_splitRows_sumRows counts (xs.map (List.drop c)) (fun _ hm => by
      obtain ⟨x, hx, rfl⟩ := List.mem_map.mp hm
      have := hxs x hx
      rw [List.sum_cons] at this
      rw [List.length_drop]
      omega) r
    simp only [splitRows, List.sum_cons, List.getD_cons_succ, ← sumRows_drop, ih, List.map_map, Function.comp_def]

/-! ### One MoE layer -/

namespace LayerOps
variable [AddCommMonoid α] [SMul ℚ α] (ops : LayerOps α)

/-- The routed experts of every rank act on each token alone, as top-k routing does. -/
def Tokenwise : Prop := ∃ e : Nat → Nat → α → α, ∀ r t B, ops.experts r t B = B.map (e r t)

theorem moeOut_eq_map {e : Nat → Nat → α → α} (he : ∀ r t B, ops.experts r t B = B.map (e r t)) (s : ℚ)
    (B : List α) (r t : Nat) :
    ops.moeOut s B r t = B.map fun b => ops.sharedExperts r t b + (s • e r t b + ops.sharedExperts r t b) := by
  simp only [moeOut, he, List.map_map, List.zipWith_map, List.zipWith_same, Function.comp_def]

/-- The stream of DP rank `r` after a MoE layer that sees its own tokens alone: its stream after the
    attention plus the WP sum of what every rank adds from its normed rows. -/
def moeLocalStream (S : Setup) (s : ℚ) (X : Nat → List α) (r : Nat) : List α :=
  List.zipWith (· + ·) (ops.stream S.tpSize X r) (sumRows (X r).length
    (S.ranks.map fun w => ops.moeOut s ((ops.stream S.tpSize X r).map ops.postAttentionLayernorm) w.1 w.2))

variable {X X' : Nat → List α} {r : Nat}

omit [SMul ℚ α] in
theorem stream_congr (h : X r = X' r) (tpSize : Nat) : ops.stream tpSize X r = ops.stream tpSize X' r := by
  simp only [stream, attnStream, h]

theorem moeLocalStream_congr (h : X r = X' r) (S : Setup) (s : ℚ) :
    ops.moeLocalStream S s X r = ops.moeLocalStream S s X' r := by
  simp only [moeLocalStream, h, ops.stream_congr h]

omit [SMul ℚ α] in
theorem denseStream_congr (h : X r = X' r) (tpSize : Nat) :
    ops.denseStream tpSize X r = ops.denseStream tpSize X' r := by
  simp only [denseStream, h, ops.stream_congr h]

theorem moeStream_congr {S : Setup} (hdp : S.dpSize ≤ 1) (h : X 0 = X' 0) (s : ℚ) :
    ops.moeStream S s X = ops.moeStream S s X' := by
  rw [moeStream, moeStream, h]
  refine congrArg _ (List.map_congr_left fun w hw => ?_)
  have hw0 : w.1 = 0 := by have := (S.mem_ranks.mp hw).1; omega
  rw [hw0, ops.stream_congr h]

/-- With routed experts that act on each token alone, DP rank `r`'s block of the WP sum over the packed
    batch is what the ranks add from its own rows: the sharded stream is the local one. -/
theorem moeShardedStream_eq_local (htok : ops.Tokenwise) {S : Setup} {counts : List Nat}
    (hdp : counts.length = S.dpSize) (hX : ∀ r < S.dpSize, (X r).length = counts.getD r 0) (hr : r < S.dpSize)
    (s : ℚ) : ops.moeShardedStream S s counts X r = ops.moeLocalStream S s X r := by
  obtain ⟨e, he⟩ := htok
  have hB := ops.length_packed S hdp hX
  have hsplit : splitRows counts (ops.packed S X) =
      (List.range S.dpSize).map fun r => (ops.stream S.tpSize X r).map ops.postAttentionLayernorm :=
    splitRows_flatten (by
      rw [List.map_map, ← hdp, map_range_eq counts _ id fun r hr => by
        simp [hX r (hdp ▸ hr), List.getD_eq_getElem?_getD, hr], List.map_id])
  rw [moeShardedStream, moeLocalStream, getD_splitRows_sumRows counts _ (fun x hx => by
    obtain ⟨w, -, rfl⟩ := List.mem_map.mp hx
    simp [hB]) r, List.map_map, hX r hr]
  refine congrArg _ (congrArg _ (List.map_congr_left fun w _ => ?_))
  simp [ops.moeOut_eq_map he, splitRows_map, hsplit, List.getD_eq_getElem?_getD, hr]

end LayerOps

section Layer
variable [AddCommMonoid α] [SMul ℚ α] (S : Setup) (ops : LayerOps α)

end Layer

/-! ### A whole pass -/

namespace CustomDeepseekV2Model
variable [AddCommMonoid α] [SMul ℚ α] (M : CustomDeepseekV2Model) {S : Setup} (ops : ModelOps α) {isPrefill : Bool}
  (hc : M.Covered S isPrefill) (htok : ∀ i, (ops.layers i).Tokenwise) {counts counts' : List Nat}
  (hdp : counts.length = S.dpSize) (hdp' : counts'.length = S.dpSize) {r : Nat} (hr : r < S.dpSize)
include hc htok hdp hdp' hr

/-- A layer gives DP rank `r` the same stream in two covered passes that give `r` the same stream. -/
theorem streamStep_congr {X X' : Nat → List α} (hX : ∀ r < S.dpSize, (X r).length = counts.getD r 0)
    (hX' : ∀ r < S.dpSize, (X' r).length = counts'.getD r 0) (i : Nat) (h : X r = X' r) :
    M.streamStep S ops counts isPrefill i X r = M.streamStep S ops counts' isPrefill i X' r := by
  by_cases hmoe : (M.layer i).isMoe
  · cases hmode : isPrefill || !S.enableGraphMode
    · -- a graph-mode decode pass is covered without DP only
      have hdp1 := (hc.mode.resolve_left (Bool.eq_false_iff.mp hmode)).1
      obtain rfl : r = 0 := by omega
      simp only [streamStep, hmoe, hmode, if_true, Bool.false_eq_true, if_false,
        (ops.layers i).moeStream_congr hdp1.le h, (ops.layers i).stream_congr h]
    · by_cases hdp1 : S.dpSize ≤ 1
      · obtain rfl : r = 0 := by omega
        simp only [streamStep, hmoe, hmode, hdp1, if_true, (ops.layers i).moeStream_congr hdp1 h]
      · simp only [streamStep, hmoe, hmode, hdp1, if_true, if_false,
          (ops.layers i).moeShardedStream_eq_local (htok i) hdp hX hr,
          (ops.layers i).moeShardedStream_eq_local (htok i) hdp' hX' hr, (ops.layers i).moeLocalStream_congr h]
  · simp only [streamStep, hmoe, Bool.false_eq_true, if_false, (ops.layers i).denseStream_congr h]

/-- The layers `is` give DP rank `r` the same stream in two covered passes that give `r` the same stream. -/
theorem streams_congr : ∀ (is : List Nat) {X X' : Nat → List α}, (∀ r < S.dpSize, (X r).length = counts.getD r 0) →
    (∀ r < S.dpSize, (X' r).length = counts'.getD r 0) → X r = X' r →
      M.streams S ops counts isPrefill is X r = M.streams S ops counts' isPrefill is X' r
  | [], _, _, _, _, h => h
  | i :: is, _, _, hX, hX', h =>
    streams_congr is (M.length_streamStep ops counts hc hX i) (M.length_streamStep ops counts' hc hX' i)
      (M.streamStep_congr ops hc htok hdp hdp' hr hX hX' i h)

end CustomDeepseekV2Model

namespace CustomDeepseekV2ForCausalLM
variable [AddCommMonoid α] [SMul ℚ α] (F : CustomDeepseekV2ForCausalLM) {S : Setup} (ops : ModelOps α)

/-- A covered pass gives what the stage gives with the plan of the pass's own counts: a prefill or eager
    pass builds it, and a graph-mode decode pass, covered without DP only, reads no plan. -/
theorem forward_snd_eq_planOf {isPrefill : Bool} (hc : F.model.Covered S isPrefill) {counts : List Nat}
    (hdp : counts.length = S.dpSize) (meta : Option DPMetadataForPadding) (inputsEmbeds : Local (List α))
    (intermediateTensors : Local (List α × Option (List α))) :
    (F.forward S ops meta (prefixSums (counts.map (↑))) isPrefill inputsEmbeds intermediateTensors).2 =
      F.model.forward S ops (some (planOf S.tpSize counts)) isPrefill inputsEmbeds intermediateTensors := by
  have hne : counts ≠ [] := by rintro rfl; have := S.dpSize_pos; simp at hdp; omega
  cases hmode : isPrefill || !S.enableGraphMode
  · rw [forward, if_neg (Bool.eq_false_iff.mp hmode)]
    exact F.model.forward_of_stored S ops (.inr (hc.mode.resolve_left (Bool.eq_false_iff.mp hmode)).1.le) _ _ _ _
  · rw [forward, if_pos hmode, build_prefixSums S.tpSize_pos hdp hne]

omit [SMul ℚ α] in
theorem represents_start (hfirst : F.model.isFirstRank = true) (hstart : F.model.startLayer = 0) {counts : List Nat}
    {inputsEmbeds : Local (List α)} {X : Nat → List α} (hE : S.OkOn inputsEmbeds fun r _ => X r)
    (hX : ∀ r < S.dpSize, (X r).length = counts.getD r 0) (intermediateTensors : Local (List α × Option (List α))) :
    F.model.Represents S counts F.model.startLayer
      (if F.model.isFirstRank then inputsEmbeds.map fun _ _ h => (h, none) else intermediateTensors) X :=
  ⟨hX, by
    rw [if_pos hfirst, hstart]
    exact (hE.map fun _ _ h => (h, none)).congr fun r _ t _ => by
      simp [CustomDeepseekV2Model.pairAt, CustomDeepseekV2Model.carriesResidual]⟩

/-- With routed experts that act on each token alone, in a covered pass through the whole model what DP
    rank `r` returns depends on its own tokens only: two passes that give `r` the same tokens give every
    rank of `r` the same output, whatever the other DP ranks hold, however many tokens they hold, and
    whatever plan is stored. -/
theorem forward_dp_local (htok : ∀ i, (ops.layers i).Tokenwise) {isPrefill : Bool} (hc : F.model.Covered S isPrefill)
    (hfirst : F.model.isFirstRank = true) (hlast : F.model.isLastRank = true) (hstart : F.model.startLayer = 0)
    {counts counts' : List Nat} (hdp : counts.length = S.dpSize) (hdp' : counts'.length = S.dpSize)
    {inputsEmbeds inputsEmbeds' : Local (List α)} {X X' : Nat → List α}
    (hE : S.OkOn inputsEmbeds fun r _ => X r) (hE' : S.OkOn inputsEmbeds' fun r _ => X' r)
    (hX : ∀ r < S.dpSize, (X r).length = counts.getD r 0) (hX' : ∀ r < S.dpSize, (X' r).length = counts'.getD r 0)
    (meta meta' : Option DPMetadataForPadding) (intermediateTensors intermediateTensors' : Local (List α × Option (List α)))
    {r : Nat} (hr : r < S.dpSize) (h : X r = X' r) :
    ∃ z z', (F.forward S ops meta (prefixSums (counts.map (↑))) isPrefill inputsEmbeds intermediateTensors).2 = .ok z ∧
      (F.forward S ops meta' (prefixSums (counts'.map (↑))) isPrefill inputsEmbeds' intermediateTensors').2 = .ok z' ∧
      ∀ t < S.tpSize, z r t = z' r t := by
  obtain ⟨z, hz, hv⟩ := F.model.forward_streams ops counts hc hdp _ (fun _ => rfl)
    (F.represents_start hfirst hstart hE hX intermediateTensors)
  obtain ⟨z', hz', hv'⟩ := F.model.forward_streams ops counts' hc hdp' _ (fun _ => rfl)
    (F.represents_start hfirst hstart hE' hX' intermediateTensors')
  refine ⟨z, z', by rw [F.forward_snd_eq_planOf ops hc hdp]; exact hz,
    by rw [F.forward_snd_eq_planOf ops hc hdp']; exact hz', fun t ht => ?_⟩
  rw [hv r hr t ht, hv' r hr t ht]
  simp only [hlast, if_true, F.model.streams_congr ops hc htok hdp hdp' hr _ hX hX' h]

/-- DP rank 0 holds the same two tokens in two passes through the two MoE layers, while DP rank 1 holds
    one token in the first and three in the second. -/
theorem forward_dp_local_two :
    (∀ i, (passOps.layers i).Tokenwise) ∧ moeStack.model.Covered twoByTwo true ∧ moeStack.model.isFirstRank = true ∧
      moeStack.model.isLastRank = true ∧ moeStack.model.startLayer = 0 ∧ [2, 1].length = twoByTwo.dpSize ∧
      [2, 3].length = twoByTwo.dpSize ∧
      twoByTwo.OkOn (fun r _ => .ok (List.replicate ([2, 1].getD r 0) (1 : ℚ)))
        (fun r _ => List.replicate ([2, 1].getD r 0) 1) ∧
      twoByTwo.OkOn (fun r _ => .ok (List.replicate ([2, 3].getD r 0) (1 : ℚ)))
        (fun r _ => List.replicate ([2, 3].getD r 0) 1) ∧
      (∀ r < twoByTwo.dpSize, (List.replicate ([2, 1].getD r 0) (1 : ℚ)).length = [2, 1].getD r 0) ∧
      (∀ r < twoByTwo.dpSize, (List.replicate ([2, 3].getD r 0) (1 : ℚ)).length = [2, 3].getD r 0) ∧
      0 < twoByTwo.dpSize ∧ List.replicate ([2, 1].getD 0 0) (1 : ℚ) = List.replicate ([2, 3].getD 0 0) 1 ∧
      ∃ z z', (moeStack.forward twoByTwo passOps none (prefixSums ([2, 1].map (↑))) true
          (fun r _ => .ok (List.replicate ([2, 1].getD r 0) 1)) (fun _ _ => .ok ([], none))).2 = .ok z ∧
        (moeStack.forward twoByTwo passOps none (prefixSums ([2, 3].map (↑))) true
          (fun r _ => .ok (List.replicate ([2, 3].getD r 0) 1)) (fun _ _ => .ok ([], none))).2 = .ok z' ∧
        ∀ t < twoByTwo.tpSize, z 0 t = z' 0 t := by
  have htok : ∀ i, (passOps.layers i).Tokenwise := fun _ => ⟨fun _ _ => id, fun _ _ B => B.map_id.symm⟩
  have hc : moeStack.model.Covered twoByTwo true :=
    ⟨.inl rfl, rfl, rfl, fun _ _ _ _ => rfl, fun i _ _ _ _ => by simp [isMoe, moeStack, firstMoeLayer, Nat.mod_one],
      by decide, le_rfl⟩
  have hX : ∀ r < twoByTwo.dpSize, (List.replicate ([2, 1].getD r 0) (1 : ℚ)).length = [2, 1].getD r 0 :=
    fun _ _ => List.length_replicate _ _
  have hX' : ∀ r < twoByTwo.dpSize, (List.replicate ([2, 3].getD r 0) (1 : ℚ)).length = [2, 3].getD r 0 :=
    fun _ _ => List.length_replicate _ _
  exact ⟨htok, hc, rfl, rfl, rfl, rfl, rfl, fun _ _ _ _ => rfl, fun _ _ _ _ => rfl, hX, hX', by decide, rfl,
    forward_dp_local moeStack passOps htok hc rfl rfl rfl (show [2, 1].length = twoByTwo.dpSize from rfl)
      (show [2, 3].length = twoByTwo.dpSize from rfl) (fun _ _ _ _ => rfl) (fun _ _ _ _ => rfl) hX hX' none none
      _ _ (by decide) rfl⟩

end CustomDeepseekV2ForCausalLM

end DeepseekAscend
