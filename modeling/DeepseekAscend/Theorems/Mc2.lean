import DeepseekAscend.Theorems.Agreement

/-! The MC2 piece of `torch.chunk` in an eager decode pass (§5, failure semantics).

With `VLLM_ENABLE_MC2` in a decode pass and `tp_size > 1`, `CustomDeepseekV2MoE.forward` keeps TP rank
`t`'s piece of `torch.chunk(hidden_states, tp_size)`: pieces of `ceil(n / tp_size)` rows, and fewer than
`tp_size` of them on a small batch. In an eager pass without DP, `post_moe_process` adds the shared output
to the routed output of the piece and all-reduces over WP. A batch of `n < tp_size` tokens is cut into `n`
pieces of one row: the TP ranks `t ≥ n` raise `IndexError` while the others reach the all-reduce, and the
pass diverges. A batch of `n > tp_size` tokens gives TP rank 0 a piece of `2 ≤ c < n` rows, which does not
add to the `n` rows of the shared output, and no rank returns. Only a batch of exactly `tp_size` tokens
gets through, each one-row piece broadcast over the shared output. -/

namespace DeepseekAscend
open DPMetadataForPadding CustomDeepseekV2DecoderLayer

variable {α β : Type}

/-! ### The pieces of a batch -/

theorem chunk_of_le {x : List β} {k : Nat} (h0 : 0 < x.length) (hk : x.length ≤ k) :
    chunk x k = x.map fun a => [a] := by
  have hc : (x.length + k - 1) / k = 1 := Nat.div_eq_of_lt_le (by omega) (by omega)
  simp only [chunk, Nat.pos_iff_ne_zero.mp h0, if_false, hc, Nat.add_sub_cancel, Nat.div_one, Nat.mul_one]
  refine List.ext_getElem (by simp) fun i h₁ _ => ?_
  simp only [List.getElem_map, List.getElem_range]
  rw [List.drop_eq_getElem_cons (show i < x.length by simpa using h₁)]
  rfl

theorem getItem_chunk_of_lt {x : List β} {k t : Nat} (h0 : 0 < x.length) (hk : x.length ≤ k) (ht : t < x.length) :
    getItem (chunk x k) t = .ok [x[t]] := by
  simp [chunk_of_le h0 hk, getItem, List.getElem?_eq_getElem ht]

theorem getItem_chunk_of_le {x : List β} {k t : Nat} (h0 : 0 < x.length) (hk : x.length ≤ k) (ht : x.length ≤ t) :
    getItem (chunk x k) t = .error (.indexOutOfRange t x.length) := by
  simp [chunk_of_le h0 hk, getItem, List.getElem?_eq_none ht]

theorem getItem_chunk_zero {x : List β} {k : Nat} (h0 : 0 < x.length) (hk : 0 < k) :
    getItem (chunk x k) 0 = .ok (x.take ((x.length + k - 1) / k)) := by
  have hc : 0 < (x.length + k - 1) / k := Nat.div_pos (by omega) hk
  have hm : 0 < (x.length + (x.length + k - 1) / k - 1) / ((x.length + k - 1) / k) := Nat.div_pos (by omega) hc
  simp [chunk, Nat.pos_iff_ne_zero.mp h0, getItem, hm]

@[simp] theorem addRows_one_left (n : Nat) : addRows 1 n = some n := by
  by_cases h : 1 = n <;> simp [addRows, h]

/-! ### A collective that some members reach -/

theorem agree_eq_false {xs : List (Except Error (List α))} {v : List α} {e : Error} (hv : .ok v ∈ xs)
    (he : .error e ∈ xs) : agree xs = false := by
  simp only [agree, Bool.or_eq_false_iff, List.all_eq_false]
  refine ⟨⟨_, hv, by simp⟩, ?_⟩
  match xs, he with
  | .error _ :: _, _ => rfl
  | .ok _ :: _, he => exact List.all_eq_false.mpr ⟨_, he, by simp⟩

theorem status_of_agree {xs : List (Except Error (List α))} {e : Error} (h : agree xs = true) (he : .error e ∈ xs)
    {y : Except Error (List α)} (hy : y ∈ xs) : status List.length y = none := by
  cases y with
  | error _ => rfl
  | ok _ => rw [agree_eq_false hy he] at h; cases h

theorem Setup.mem_members_self (S : Setup) (g : Group) {r t : Nat} (hr : r < S.dpSize) (ht : t < S.tpSize) :
    (r, t) ∈ S.members g r t := by
  cases g <;> simp [Setup.members, S.mem_ranks, hr, ht]

/-- A collective that one member of a group reaches and another does not diverges. -/
theorem Setup.collective_eq_diverged [AddCommMonoid α] {S : Setup} (g : Group) (c : Collective)
    {x : Local (List α)} {r t r₀ t₀ r₁ t₁ : Nat} (hr : r < S.dpSize) (ht : t < S.tpSize)
    (hm₀ : (r₀, t₀) ∈ S.members g r t) (hm₁ : (r₁, t₁) ∈ S.members g r t)
    (h₀ : status List.length (x r₀ t₀) ≠ none) (h₁ : status List.length (x r₁ t₁) = none) :
    S.collective g c x = .error (.diverged g c) := by
  obtain ⟨v, hv⟩ : ∃ v, x r₀ t₀ = .ok v := by
    cases h : x r₀ t₀ with
    | ok v => exact ⟨v, rfl⟩
    | error _ => rw [h] at h₀; exact absurd rfl h₀
  obtain ⟨e, he⟩ := exists_error_of_status h₁
  refine if_neg fun h => ?_
  have := List.all_eq_true.mp h (r, t) (S.mem_ranks.mpr ⟨hr, ht⟩)
  rw [agree_eq_false (List.mem_map.mpr ⟨_, hm₀, hv⟩) (List.mem_map.mpr ⟨_, hm₁, he⟩)] at this
  exact Bool.false_ne_true this

theorem Setup.status_collective_of_error [AddCommMonoid α] {S : Setup} {g : Group} {c : Collective}
    {x z : Local (List α)} (hz : S.collective g c x = .ok z) {r t r₀ t₀ : Nat} (hr : r < S.dpSize)
    (ht : t < S.tpSize) (hm : (r₀, t₀) ∈ S.members g r t) (he : status List.length (x r₀ t₀) = none) :
    status List.length (z r t) = none := by
  unfold Setup.collective at hz
  split at hz
  next h =>
    cases hz
    obtain ⟨e, he⟩ := exists_error_of_status he
    obtain ⟨e', he'⟩ := exists_error_of_status (status_of_agree (List.all_eq_true.mp h (r, t)
      (S.mem_ranks.mpr ⟨hr, ht⟩)) (List.mem_map.mpr ⟨_, hm, he⟩)
      (List.mem_map.mpr ⟨_, S.mem_members_self g hr ht, rfl⟩))
    simp only [show x r t = .error e' from he']
    rfl
  next => cases hz

/-! ### One MoE layer -/

section Layer
variable [AddCommMonoid α] [SMul ℚ α] (L : CustomDeepseekV2DecoderLayer) {S : Setup} (ops : LayerOps α)
  (meta : Option DPMetadataForPadding) (hgraph : S.enableGraphMode = false) (hmc2 : S.enableMc2 = true)
  (hdp : S.dpSize ≤ 1) (hshared : L.config.nSharedExperts.isSome = true) {n : Nat} (hn : 0 < n)

omit [AddCommMonoid α] in
include hmc2 in
theorem status_moe_mc2 (htp : 1 < S.tpSize) (config : PretrainedConfig) {x : Local (List α)} {r t : Nat}
    {h : List α} (hx : x r t = .ok h) :
    status List.length (CustomDeepseekV2MoE.forward S ops config false x r t) =
      status List.length (getItem (chunk h S.tpSize) t) := by
  have hchunk : (S.enableMc2 && !false && 1 < S.tpSize) = true := by simp [hmc2, htp]
  simp only [CustomDeepseekV2MoE.forward, Local.bind_apply, hx, ok_bind', hchunk, if_true]
  cases getItem (chunk h S.tpSize) t <;> simp [ops.experts_length]

namespace CustomDeepseekV2DecoderLayer

theorem forward_of_isMoe {isPrefill : Bool} (hmoe : L.isMoe = true) (x : Local (List α × Option (List α))) :
    L.forward S ops meta isPrefill x = L.postAttentionProcess S ops meta
      ((x.bind (L.attend S ops)).map fun _ _ => Prod.fst) ((x.bind (L.attend S ops)).map fun _ _ => Prod.snd)
      isPrefill >>= fun y =>
        L.moeFullyConnected S ops meta isPrefill (y.map fun _ _ => Prod.fst) (y.map fun _ _ => Prod.snd) := by
  simp only [forward, hmoe, if_true, Bool.not_true, Bool.false_and, Bool.false_eq_true, if_false, bind_pure]

include hgraph hdp in
theorem forward_eager_moe (hmoe : L.isMoe = true) (hfp : ¬(S.isFp16 = true ∧ L.config.routedScalingFactor = 0))
    {x : Local (List α × Option (List α))} (hx : S.HasStatus pairShape x (some (n, none))) :
    ∃ y : Local (List α × List α), L.forward S ops meta false x =
      L.moeFullyConnected S ops meta false (y.map fun _ _ => Prod.fst) (y.map fun _ _ => Prod.snd) ∧
      S.HasStatus List.length (y.map fun _ _ => Prod.fst) (some n) := by
  have hmode : (false || !S.enableGraphMode) = true := by simp [hgraph]
  have ha := hx.bind (F := fun p => if S.isFp16 ∧ L.config.routedScalingFactor = 0 then none
    else some (p.1, p.2.getD p.1)) (L.status_attend ops)
  obtain ⟨y, hy, hys⟩ := L.postAttentionProcess_hasStatus ops meta
    (show (false || !S.enableGraphMode) = false ∨ S.dpSize ≤ 1 from .inr hdp)
    (ha.map (F := Prod.fst) fun _ _ _ => rfl) (ha.map (F := Prod.snd) fun _ _ _ => rfl)
  refine ⟨y, ?_, Setup.HasStatus.of_eq (hys.map (F := Prod.fst) fun _ _ _ => rfl)
    (by simp [hfp, postAttentionRows, hmode])⟩
  rw [L.forward_of_isMoe ops meta hmoe, hy, ok_bind]

include hgraph hmc2 hdp hshared hn

omit hn in
/-- The fully connected half of a MoE layer with shared experts, in an eager MC2 decode pass without DP:
    the WP all-reduce of `post_moe_process` over the rows of each rank, its piece's routed output with the
    shared output added twice. -/
theorem moeFullyConnected_mc2_eq (htp : 1 < S.tpSize) {hidden residual : Local (List α)}
    (hh : S.HasStatus List.length hidden (some n)) :
    ∃ y : Local (List α), (∀ r < S.dpSize, ∀ t < S.tpSize, ∃ h, hidden r t = .ok h ∧ h.length = n ∧
      status List.length (y r t) =
        (status List.length (getItem (chunk h S.tpSize) t)).bind fun k => (addRows k n).bind (addRows n)) ∧
      L.moeFullyConnected S ops meta false hidden residual =
        (S.collective .wp .allReduce y).bind fun z => .ok (z.map fun _ _ h => (h, none)) := by
  obtain ⟨so, hso, hsos⟩ := S.sharedExperts_hasStatus ops false hh
  have hmode : (false || !S.enableGraphMode) = true := by simp [hgraph]
  rw [moeFullyConnected, if_pos hshared, hso]
  simp only [ok_bind, pure_eq_ok, postMoeProcess, hmode, hdp, decide_True, if_true]
  refine ⟨_, fun r hr t ht => ?_, rfl⟩
  obtain ⟨h, hh'⟩ := exists_ok_of_status (hh r hr t ht)
  obtain ⟨s, hs'⟩ := exists_ok_of_status (hsos r hr t ht)
  have hl : h.length = n := by simpa [hh'] using hh r hr t ht
  have hsl : s.length = n := by simpa [hs'] using hsos r hr t ht
  refine ⟨h, hh', hl, ?_⟩
  simp only [Local.zip_apply, Local.map_apply, hs', ok_map, ok_bind']
  rw [status_bind List.length List.length (F := addRows n) (fun a => by simp [status_addOpt, hsl]),
    status_bind List.length List.length (F := fun k => addRows k n) (fun a => by rw [status_add, hsl]),
    status_moe_mc2 ops hmc2 htp L.config hh', Option.bind_assoc]

/-- On a batch of `n < tp_size` tokens the fully connected half diverges at the WP all-reduce: TP rank 0
    reaches it, and TP rank `tp_size - 1` has raised in the routed experts. -/
theorem moeFullyConnected_mc2 (hlt : n < S.tpSize) {hidden residual : Local (List α)}
    (hh : S.HasStatus List.length hidden (some n)) :
    L.moeFullyConnected S ops meta false hidden residual = .error (.diverged .wp .allReduce) := by
  obtain ⟨y, hy, heq⟩ := L.moeFullyConnected_mc2_eq ops meta hgraph hmc2 hdp hshared (by omega) hh
  obtain ⟨h₀, -, hl₀, hy₀⟩ := hy 0 S.dpSize_pos 0 S.tpSize_pos
  obtain ⟨h₁, -, hl₁, hy₁⟩ := hy 0 S.dpSize_pos (S.tpSize - 1) (by omega)
  rw [heq, S.collective_eq_diverged .wp .allReduce S.dpSize_pos S.tpSize_pos
    (S.mem_ranks.mpr ⟨S.dpSize_pos, S.tpSize_pos⟩) (S.mem_ranks.mpr ⟨S.dpSize_pos, Nat.sub_lt S.tpSize_pos one_pos⟩)]
  · rfl
  · rw [hy₀, getItem_chunk_of_lt (hl₀ ▸ hn) (by omega) (by omega)]
    simp
  · rw [hy₁, getItem_chunk_of_le (hl₁ ▸ hn) (by omega) (by omega)]
    rfl

/-- On a batch of exactly `tp_size` tokens every rank's one-row piece broadcasts over the shared output, and
    every rank returns `n` rows. -/
theorem moeFullyConnected_mc2_tpSize (htp : 1 < S.tpSize) (heq : n = S.tpSize) {hidden residual : Local (List α)}
    (hh : S.HasStatus List.length hidden (some n)) :
    ∃ z, L.moeFullyConnected S ops meta false hidden residual = .ok z ∧ S.HasStatus pairShape z (some (n, none)) := by
  obtain ⟨y, hy, hfc⟩ := L.moeFullyConnected_mc2_eq ops meta hgraph hmc2 hdp hshared htp hh
  have hys : S.HasStatus List.length y (some n) := fun r hr t ht => by
    obtain ⟨h, -, hl, hyt⟩ := hy r hr t ht
    rw [hyt, getItem_chunk_of_lt (hl ▸ hn) (by omega) (by omega)]
    simp
  rw [hfc]
  exact exists_ok_bind (S.allReduce_hasStatus .wp hys) fun _ hw =>
    ⟨_, rfl, hw.map (F := fun n => (n, none)) fun _ _ _ => rfl⟩

/-- On a batch of `n > tp_size` tokens TP rank 0's piece of `2 ≤ c < n` rows does not add to the shared
    output: no rank returns. -/
theorem moeFullyConnected_mc2_large (htp : 1 < S.tpSize) (hgt : S.tpSize < n) {hidden residual : Local (List α)}
    (hh : S.HasStatus List.length hidden (some n)) :
    ∀ z, L.moeFullyConnected S ops meta false hidden residual = .ok z → S.HasStatus pairShape z none := by
  intro z hz
  obtain ⟨y, hy, hfc⟩ := L.moeFullyConnected_mc2_eq ops meta hgraph hmc2 hdp hshared htp hh
  obtain ⟨w, hw, hwz⟩ := eq_ok_of_bind_eq_ok (hfc ▸ hz)
  cases hwz
  obtain ⟨h₀, -, hl₀, hy₀⟩ := hy 0 S.dpSize_pos 0 S.tpSize_pos
  -- the rows `c` of TP rank 0's piece
  have hc₂ : 2 ≤ (n + S.tpSize - 1) / S.tpSize := (Nat.le_div_iff_mul_le S.tpSize_pos).mpr (by omega)
  have hcn : (n + S.tpSize - 1) / S.tpSize < n :=
    (Nat.div_lt_iff_lt_mul S.tpSize_pos).mpr (by have := Nat.mul_le_mul_left n htp; omega)
  have hnone : status List.length (y 0 0) = none := by
    rw [hy₀, getItem_chunk_zero (hl₀ ▸ hn) S.tpSize_pos, hl₀]
    simp only [status_ok, List.length_take, hl₀, Nat.min_eq_left hcn.le, Option.some_bind]
    rw [addRows, if_neg (by omega), if_neg (by omega), if_neg (by omega), Option.none_bind]
  intro r hr t ht
  simp only [Local.map_apply]
  have := Setup.status_collective_of_error hw hr ht (S.mem_ranks.mpr ⟨S.dpSize_pos, S.tpSize_pos⟩) hnone
  obtain ⟨e, he⟩ := exists_error_of_status this
  rw [he]
  rfl

theorem forward_mc2_smallBatch (hlt : n < S.tpSize)
    (hmoe : L.isMoe = true) (hfp : ¬(S.isFp16 = true ∧ L.config.routedScalingFactor = 0))
    {x : Local (List α × Option (List α))} (hx : S.HasStatus pairShape x (some (n, none))) :
    L.forward S ops meta false x = .error (.diverged .wp .allReduce) := by
  obtain ⟨y, hfw, hfst⟩ := L.forward_eager_moe ops meta hgraph hdp hmoe hfp hx
  rw [hfw, L.moeFullyConnected_mc2 ops meta hgraph hmc2 hdp hshared hn hlt hfst]

/-- A MoE layer with shared experts, in an eager MC2 decode pass without DP, returns only on a batch of
    exactly `tp_size` tokens, with its `n` rows; on any other batch no rank returns. -/
theorem forward_mc2 (htp : 1 < S.tpSize) (hmoe : L.isMoe = true)
    (hfp : ¬(S.isFp16 = true ∧ L.config.routedScalingFactor = 0)) {x : Local (List α × Option (List α))}
    (hx : S.HasStatus pairShape x (some (n, none))) :
    if n = S.tpSize then ∃ z, L.forward S ops meta false x = .ok z ∧ S.HasStatus pairShape z (some (n, none))
    else ∀ z, L.forward S ops meta false x = .ok z → S.HasStatus pairShape z none := by
  obtain ⟨y, hfw, hfst⟩ := L.forward_eager_moe ops meta hgraph hdp hmoe hfp hx
  rw [hfw]
  split
  next heq => exact L.moeFullyConnected_mc2_tpSize ops meta hgraph hmc2 hdp hshared hn htp heq hfst
  next hne =>
    rcases Nat.lt_or_gt_of_ne hne with hlt | hgt
    · rw [L.moeFullyConnected_mc2 ops meta hgraph hmc2 hdp hshared hn hlt hfst]
      intro _ h
      cases h
    · exact L.moeFullyConnected_mc2_large ops meta hgraph hmc2 hdp hshared hn htp hgt hfst

end CustomDeepseekV2DecoderLayer

end Layer

/-! ### A stage -/

namespace CustomDeepseekV2Model
variable [AddCommMonoid α] [SMul ℚ α] (M : CustomDeepseekV2Model) {S : Setup} (ops : ModelOps α)
  (meta : Option DPMetadataForPadding) (hgraph : S.enableGraphMode = false) (hmc2 : S.enableMc2 = true)
  (hdp : S.dpSize = 1) (hshared : M.config.nSharedExperts.isSome = true)
  (hfp : ¬(S.isFp16 = true ∧ M.config.routedScalingFactor = 0)) {n : Nat} (hn : 0 < n)

include hdp hfp in
theorem forward_dense_rows {isPrefill : Bool} {i : Nat} (hi : ¬(M.layer i).isMoe = true)
    {x : Local (List α × Option (List α))} (hx : S.HasStatus pairShape x (some (n, none))) :
    ∃ z, (M.layer i).forward S (ops.layers i) meta isPrefill x = .ok z ∧ S.HasStatus pairShape z (some (n, none)) := by
  obtain ⟨z, hz, hzs⟩ := (M.layer i).forward_hasStatus (ops.layers i) meta (.inr hdp.le) (fun h => absurd h hi) hx
  exact ⟨z, hz, Setup.HasStatus.of_eq hzs (by simp [layerRows_of_dpSize_one hdp hfp (fun h => absurd h hi) n])⟩

section SmallBatch
variable (htp : n < S.tpSize)
include hgraph hmc2 hdp hshared hfp hn htp

theorem runLayers_mc2_smallBatch : ∀ (is : List Nat) {x : Local (List α × Option (List α))},
    (∃ i ∈ is, (M.layer i).isMoe = true) → S.HasStatus pairShape x (some (n, none)) →
      M.runLayers S ops meta false is x = .error (.diverged .wp .allReduce)
  | [], _, ⟨_, hi, _⟩, _ => absurd hi (List.not_mem_nil _)
  | i :: is, x, hmoe, hx => by
    by_cases hi : (M.layer i).isMoe = true
    · rw [runLayers, (M.layer i).forward_mc2_smallBatch (ops.layers i) meta hgraph hmc2 hdp.le hshared hn htp hi hfp hx]
      rfl
    · obtain ⟨z, hz, hzs⟩ := M.forward_dense_rows ops meta hdp hfp hi hx
      rw [runLayers, hz, ok_bind]
      exact runLayers_mc2_smallBatch is (by simpa [hi] using hmoe) hzs

/-- In an eager decode pass with MC2 and without DP, a stage with a MoE layer diverges on every batch of
    fewer tokens than TP ranks, the same on every rank: `torch.chunk` gives the TP ranks past the batch no
    piece, and the WP all-reduce of `post_moe_process` is reached by the others only. -/
theorem forward_mc2_diverges (hmoe : ∃ i ∈ M.layerRange, (M.layer i).isMoe = true) {inputsEmbeds : Local (List α)}
    {intermediateTensors : Local (List α × Option (List α))} (hE : S.HasStatus List.length inputsEmbeds (some n))
    (hI : S.HasStatus pairShape intermediateTensors (some (n, none))) :
    M.forward S ops meta false inputsEmbeds intermediateTensors = .error (.diverged .wp .allReduce) := by
  have hx : S.HasStatus pairShape _ (some (n, none)) := Setup.HasStatus.of_eq (M.start_hasStatus hE hI) (by simp)
  rw [forward, M.runLayers_mc2_smallBatch ops meta hgraph hmc2 hdp hshared hfp hn htp M.layerRange hmoe hx]
  rfl

end SmallBatch

section AnyBatch
variable (htp : 1 < S.tpSize)
include hgraph hmc2 hdp hshared hfp hn htp

theorem runLayers_mc2_tpSize (heq : n = S.tpSize) : ∀ (is : List Nat) {x : Local (List α × Option (List α))},
    S.HasStatus pairShape x (some (n, none)) →
      ∃ z, M.runLayers S ops meta false is x = .ok z ∧ S.HasStatus pairShape z (some (n, none))
  | [], x, hx => ⟨x, rfl, hx⟩
  | i :: is, _, hx => by
    refine exists_ok_bind ?_ fun _ hy => runLayers_mc2_tpSize heq is hy
    by_cases hi : (M.layer i).isMoe = true
    · have := (M.layer i).forward_mc2 (ops.layers i) meta hgraph hmc2 hdp.le hshared hn htp hi hfp hx
      rwa [if_pos heq] at this
    · exact M.forward_dense_rows ops meta hdp hfp hi hx

theorem runLayers_mc2_ne (hne : n ≠ S.tpSize) : ∀ (is : List Nat) {x : Local (List α × Option (List α))},
    (∃ i ∈ is, (M.layer i).isMoe = true) → S.HasStatus pairShape x (some (n, none)) →
      ∀ z, M.runLayers S ops meta false is x = .ok z → S.HasStatus pairShape z none
  | [], _, ⟨_, hi, _⟩, _ => absurd hi (List.not_mem_nil _)
  | i :: is, x, hmoe, hx => fun z hz => by
    obtain ⟨y, hy, hz⟩ := eq_ok_of_bind_eq_ok hz
    by_cases hi : (M.layer i).isMoe = true
    · have := (M.layer i).forward_mc2 (ops.layers i) meta hgraph hmc2 hdp.le hshared hn htp hi hfp hx
      rw [if_neg hne] at this
      obtain ⟨z', hz', hzs⟩ := M.runLayers_error ops meta (.inr hdp.le) is (this y hy)
      rw [hz'] at hz
      cases hz
      exact hzs
    · obtain ⟨y', hy', hys⟩ := M.forward_dense_rows ops meta hdp hfp hi hx
      rw [hy'] at hy
      cases hy
      exact runLayers_mc2_ne hne is (by simpa [hi] using hmoe) hys z hz

/-- In an eager decode pass with MC2 and without DP, a stage with a MoE layer returns only on a batch of
    exactly `tp_size` tokens, every rank with its `n` rows and no residual; on any other batch no rank
    returns. -/
theorem forward_mc2_eager (hmoe : ∃ i ∈ M.layerRange, (M.layer i).isMoe = true) {inputsEmbeds : Local (List α)}
    {intermediateTensors : Local (List α × Option (List α))} (hE : S.HasStatus List.length inputsEmbeds (some n))
    (hI : S.HasStatus pairShape intermediateTensors (some (n, none))) :
    if n = S.tpSize then ∃ z, M.forward S ops meta false inputsEmbeds intermediateTensors = .ok z ∧
      S.HasStatus StageOutput.shape z (some (n, none))
    else ∀ z, M.forward S ops meta false inputsEmbeds intermediateTensors = .ok z →
      S.HasStatus StageOutput.shape z none := by
  have hx : S.HasStatus pairShape _ (some (n, none)) := Setup.HasStatus.of_eq (M.start_hasStatus hE hI) (by simp)
  split
  next heq =>
    refine exists_ok_bind (M.runLayers_mc2_tpSize ops meta hgraph hmc2 hdp hshared hfp hn htp heq M.layerRange hx)
      fun _ hy => ?_
    obtain ⟨z, hz, hzs⟩ := M.finish_hasStatus ops hy
    exact ⟨z, hz, Setup.HasStatus.of_eq hzs (by simp)⟩
  next hne =>
    intro z hz
    obtain ⟨y, hy, hz⟩ := eq_ok_of_bind_eq_ok hz
    obtain ⟨z', hz', hzs⟩ := M.finish_hasStatus ops
      (M.runLayers_mc2_ne ops meta hgraph hmc2 hdp hshared hfp hn htp hne M.layerRange hmoe hx y hy)
    rw [hz'] at hz
    cases hz
    exact hzs

end AnyBatch

end CustomDeepseekV2Model

open CustomDeepseekV2ForCausalLM in
theorem forward_mc2_diverges_oneToken :
    mc2Pair.enableGraphMode = false ∧ mc2Pair.enableMc2 = true ∧ mc2Pair.dpSize = 1 ∧
      moeModel.model.config.nSharedExperts.isSome = true ∧
      ¬(mc2Pair.isFp16 = true ∧ moeModel.model.config.routedScalingFactor = 0) ∧ 0 < 1 ∧ 1 < mc2Pair.tpSize ∧
      (∃ i ∈ moeModel.model.layerRange, (moeModel.model.layer i).isMoe = true) ∧
      mc2Pair.HasStatus List.length (fun _ _ => .ok [(1 : ℚ)]) (some 1) ∧
      mc2Pair.HasStatus pairShape (fun _ _ => .ok ([(1 : ℚ)], (none : Option (List ℚ)))) (some (1, none)) ∧
      moeModel.model.forward mc2Pair passOps none false (fun _ _ => .ok [1]) (fun _ _ => .ok ([1], none)) =
        .error (.diverged .wp .allReduce) :=
  ⟨rfl, rfl, rfl, rfl, by decide, by decide, by decide, ⟨0, by decide, by decide⟩, fun _ _ _ _ => rfl,
    fun _ _ _ _ => rfl, CustomDeepseekV2Model.forward_mc2_diverges moeModel.model passOps none rfl rfl rfl rfl
      (by decide) (by decide) (by decide) ⟨0, by decide, by decide⟩ (fun _ _ _ _ => rfl) fun _ _ _ _ => rfl⟩

open CustomDeepseekV2ForCausalLM in
/-- Two tokens on two TP ranks through the MoE layer of the one-layer model: the batch is as large as the TP
    group, and every rank returns its two rows. -/
theorem forward_mc2_eager_twoTokens :
    mc2Pair.enableGraphMode = false ∧ mc2Pair.enableMc2 = true ∧ mc2Pair.dpSize = 1 ∧
      moeModel.model.config.nSharedExperts.isSome = true ∧
      ¬(mc2Pair.isFp16 = true ∧ moeModel.model.config.routedScalingFactor = 0) ∧ 0 < 2 ∧ 1 < mc2Pair.tpSize ∧
      (∃ i ∈ moeModel.model.layerRange, (moeModel.model.layer i).isMoe = true) ∧
      mc2Pair.HasStatus List.length (fun _ _ => .ok [(1 : ℚ), 2]) (some 2) ∧
      mc2Pair.HasStatus pairShape (fun _ _ => .ok ([(1 : ℚ), 2], (none : Option (List ℚ)))) (some (2, none)) ∧
      ∃ z, moeModel.model.forward mc2Pair passOps none false (fun _ _ => .ok [1, 2])
          (fun _ _ => .ok ([1, 2], none)) = .ok z ∧ mc2Pair.HasStatus StageOutput.shape z (some (2, none)) :=
  ⟨rfl, rfl, rfl, rfl, by decide, by decide, by decide, ⟨0, by decide, by decide⟩, fun _ _ _ _ => rfl,
    fun _ _ _ _ => rfl, Eq.mp (if_pos rfl) (CustomDeepseekV2Model.forward_mc2_eager moeModel.model passOps none rfl
      rfl rfl rfl (by decide) (by decide) (by decide) ⟨0, by decide, by decide⟩ (fun _ _ _ _ => rfl)
      fun _ _ _ _ => rfl)⟩

end DeepseekAscend
