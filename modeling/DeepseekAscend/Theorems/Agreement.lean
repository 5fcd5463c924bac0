import DeepseekAscend.Theorems.Stack

/-! Agreement of the ranks at every collective, and the shapes they hold (§5, failure semantics).

A collective diverges when some members of its group reach it while others have raised, or when the
members hold tensors of different shapes. The MC2 piece of `torch.chunk` gives the TP ranks pieces of
different sizes, or none, and so can make them diverge. In the passes that read no padding plan (a
graph-mode decode pass, or any pass without DP) and take no MC2 piece, every step of the layer code decides
whether it raises, and the shape of what it returns, from the shapes of what it reads and from the config
alone (`status`). So ranks that start with one status keep one status (`Setup.HasStatus`), and the row
counts of `postAttentionRows`, `postMoeRows` and `layerRows`, read off the code step by step, say which:
they are the layer's semantics on shapes, and the layer refines them. No collective of the stage then
diverges, and in the end every rank returns or every rank raises, whatever the config, the compute and the
inputs.

In a graph-mode decode pass with DP and without MC2, `post_attention_process` all-gathers the rows of every
DP rank and then adds the residual of the rank's own rows: the shapes show that every rank raises by the
second layer of the stage. -/

namespace DeepseekAscend
open DPMetadataForPadding CustomDeepseekV2DecoderLayer

variable {α β γ δ ε : Type}

/-- What a collective sees of a rank: whether it raised, and the shape of what it holds. -/
def status (shape : β → γ) : Except Error β → Option γ
  | .error _ => none
  | .ok a => some (shape a)

@[simp] theorem status_ok (shape : β → γ) (a : β) : status shape (.ok a : Except Error β) = some (shape a) := rfl

@[simp] theorem status_error (shape : β → γ) (e : Error) : status shape (.error e : Except Error β) = none := rfl

theorem status_bind (shape : β → γ) (shape' : δ → ε) {f : β → Except Error δ} {F : γ → Option ε}
    (hf : ∀ a, status shape' (f a) = F (shape a)) (x : Except Error β) :
    status shape' (x.bind f) = (status shape x).bind F := by
  cases x <;> simp [Except.bind, hf]

theorem exists_ok_of_status {shape : β → γ} {x : Except Error β} {a : γ} (h : status shape x = some a) :
    ∃ b, x = .ok b := by
  cases x with
  | error _ => cases h
  | ok b => exact ⟨b, rfl⟩

theorem exists_error_of_status {shape : β → γ} {x : Except Error β} (h : status shape x = none) :
    ∃ e, x = .error e := by
  cases x with
  | error e => exact ⟨e, rfl⟩
  | ok _ => cases h

/-- The shape of a rank's `(hidden_states, residual)`. -/
def pairShape (p : List α × Option (List α)) : Nat × Option Nat := (p.1.length, p.2.map List.length)

/-- The shape of a pair of tensors. -/
def bothShape (p : List α × List α) : Nat × Nat := (p.1.length, p.2.length)

/-- The shape of what a stage returns: the rows of its hidden states, and of its residual. -/
def StageOutput.shape : StageOutput α → Nat × Option Nat
  | .intermediateTensors h residual => (h.length, residual.map List.length)
  | .hiddenStates h => (h.length, none)

/-- Every rank of the grid has raised, or every rank holds a value of one shape. -/
def Setup.Uniform (S : Setup) (shape : β → γ) (x : Local β) : Prop :=
  ∀ r < S.dpSize, ∀ t < S.tpSize, ∀ r' < S.dpSize, ∀ t' < S.tpSize, status shape (x r t) = status shape (x r' t')

/-- Every rank of the grid has the status `s`: all have raised (`none`), or all hold a value of the shape
    `a` (`some a`). -/
def Setup.HasStatus (S : Setup) (shape : β → γ) (x : Local β) (s : Option γ) : Prop :=
  ∀ r < S.dpSize, ∀ t < S.tpSize, status shape (x r t) = s

theorem Setup.Uniform.hasStatus {S : Setup} {shape : β → γ} {x : Local β} (hx : S.Uniform shape x) :
    S.HasStatus shape x (status shape (x 0 0)) :=
  fun r hr t ht => hx r hr t ht 0 S.dpSize_pos 0 S.tpSize_pos

namespace Setup.HasStatus
variable {S : Setup} {shape : β → γ} {x : Local β} {s : Option γ}

theorem bind (hx : S.HasStatus shape x s) {shape' : δ → ε} {f : Nat → Nat → β → Except Error δ}
    {F : γ → Option ε} (hf : ∀ r t a, status shape' (f r t a) = F (shape a)) :
    S.HasStatus shape' (x.bind f) (s.bind F) :=
  fun r hr t ht => by rw [Local.bind_apply, status_bind shape shape' (hf r t), hx r hr t ht]

theorem map (hx : S.HasStatus shape x s) {shape' : δ → ε} {f : Nat → Nat → β → δ} {F : γ → ε}
    (hf : ∀ r t a, shape' (f r t a) = F (shape a)) : S.HasStatus shape' (x.map f) (s.map F) :=
  fun r hr t ht => by
    rw [← hx r hr t ht, Local.map_apply]
    cases x r t <;> simp [Except.map, hf]

theorem zip {β₂ γ₂ ζ η : Type} (hx : S.HasStatus shape x s) {shape₂ : β₂ → γ₂} {y : Local β₂}
    {s₂ : Option γ₂} (hy : S.HasStatus shape₂ y s₂) {shape' : ζ → η} {f : Nat → Nat → β → β₂ → Except Error ζ}
    {F : γ → γ₂ → Option η} (hf : ∀ r t a b, status shape' (f r t a b) = F (shape a) (shape₂ b)) :
    S.HasStatus shape' (x.zip y f) (s.bind fun a => s₂.bind (F a)) :=
  fun r hr t ht => by
    rw [Local.zip_apply, status_bind shape shape' (F := fun a => (status shape₂ (y r t)).bind (F a))
      (fun a => status_bind shape₂ shape' (hf r t a) (y r t)), hx r hr t ht, hy r hr t ht]

theorem of_eq {s' : Option γ} (hx : S.HasStatus shape x s) (h : s = s') : S.HasStatus shape x s' := h ▸ hx

/-- Local code that raises on every rank. -/
theorem bind_error {shape' : δ → ε} (x : Local β) (e : Error) :
    S.HasStatus shape' (x.bind fun _ _ _ => (.error e : Except Error δ)) none :=
  fun r _ t _ => by
    rw [Local.bind_apply]
    cases x r t <;> rfl

/-- Local code after every rank has raised. -/
theorem bind_none (hx : S.HasStatus shape x none) {shape' : δ → ε} (f : Nat → Nat → β → Except Error δ) :
    S.HasStatus shape' (x.bind f) none :=
  fun r hr t ht => by
    obtain ⟨e, he⟩ := exists_error_of_status (hx r hr t ht)
    rw [Local.bind_apply, he]
    rfl

theorem error_of_none (hx : S.HasStatus shape x none) : ∀ r < S.dpSize, ∀ t < S.tpSize, ∃ e, x r t = .error e :=
  fun r hr t ht => exists_error_of_status (hx r hr t ht)

/-- On a grid of one status every rank returns or every rank raises. -/
theorem ok_or_error (hx : S.HasStatus shape x s) :
    (∀ r < S.dpSize, ∀ t < S.tpSize, ∃ a, x r t = .ok a) ∨
      ∀ r < S.dpSize, ∀ t < S.tpSize, ∃ e, x r t = .error e := by
  cases s with
  | none => exact .inr hx.error_of_none
  | some _ => exact .inl fun r hr t ht => exists_ok_of_status (hx r hr t ht)

end Setup.HasStatus

/-! ### Collectives on a grid of one status -/

theorem agree_of_status {xs : List (Except Error (List α))} {s : Option Nat}
    (h : ∀ y ∈ xs, status List.length y = s) : agree xs = true := by
  cases s with
  | none =>
    refine Bool.or_eq_true_iff.mpr (.inl (List.all_eq_true.mpr fun y hy => ?_))
    cases y with
    | error _ => rfl
    | ok _ => cases h _ hy
  | some n =>
    refine Setup.agree_of_ok n fun y hy => ?_
    cases y with
    | error _ => cases h _ hy
    | ok v => exact ⟨v, rfl, Option.some.inj (h _ hy)⟩

namespace Setup
variable (S : Setup)

theorem length_members (g : Group) (r t : Nat) : (S.members g r t).length = S.size g := by
  cases g <;> simp [members, size, ranks, List.length_flatMap, Function.comp_def, List.sum_replicate, Nat.mul_comm]

theorem index_lt_size (g : Group) {r t : Nat} (hr : r < S.dpSize) (ht : t < S.tpSize) : S.index g r t < S.size g := by
  cases g
  · exact ht
  · exact hr
  · calc r * S.tpSize + t < r * S.tpSize + S.tpSize := by omega
      _ = (r + 1) * S.tpSize := (Nat.succ_mul r S.tpSize).symm
      _ ≤ S.dpSize * S.tpSize := Nat.mul_le_mul_right _ hr

/-- What a collective gives a member of a group of `m` ranks that all hold `n` rows: its row count, or
    none where it raises. -/
def Collective.rows (c : Collective) (size m n : Nat) : Option Nat :=
  match c with
  | .allReduce => some n
  | .allGather => some (m * n)
  | .reduceScatter => if n % size = 0 then some (n / size) else none

theorem status_apply [AddCommMonoid α] (c : Collective) {size index n : Nat} (hi : index < size)
    {ws : List (List α)} (hws : ∀ w ∈ ws, w.length = n) :
    status List.length (c.apply size index n ws) = Collective.rows c size ws.length n := by
  cases c with
  | allReduce => simp [Collective.apply, Collective.rows]
  | allGather =>
    have : ws.map List.length = List.replicate ws.length n := List.eq_replicate_iff.mpr ⟨by simp, by simpa using hws⟩
    simp [Collective.apply, Collective.rows, List.length_flatten, this]
  | reduceScatter =>
    simp only [Collective.apply, Collective.rows]
    split
    · have hq : size * (n / size) = n := Nat.mul_div_cancel' (Nat.dvd_of_mod_eq_zero ‹_›)
      have hle : (index + 1) * (n / size) ≤ size * (n / size) := Nat.mul_le_mul_right _ hi
      simp only [status_ok, List.length_take, List.length_drop, length_sumRows, Option.some.injEq]
      rw [Nat.succ_mul] at hle
      omega
    · rfl

variable {S} [AddCommMonoid α]

/-- A collective whose members all have one status does not diverge, and gives every rank the row count
    it gives a group of members of that status. -/
theorem collective_hasStatus (g : Group) (c : Collective) {x : Local (List α)} {s : Option Nat}
    (hx : S.HasStatus List.length x s) :
    ∃ z, S.collective g c x = .ok z ∧
      S.HasStatus List.length z (s.bind (Collective.rows c (S.size g) (S.size g))) := by
  -- every member of every group has the status of the grid
  have hm : ∀ r < S.dpSize, ∀ t < S.tpSize, ∀ m ∈ S.members g r t, status List.length (x m.1 m.2) = s :=
    fun r hr t ht m hm => hx _ (S.mem_members hr ht hm).1 _ (S.mem_members hr ht hm).2
  refine ⟨_, if_pos (List.all_eq_true.mpr fun k hk => agree_of_status (s := s) ?_), fun r hr t ht => ?_⟩
  · simp only [List.mem_map]
    rintro _ ⟨m, hmk, rfl⟩
    exact hm _ (S.mem_ranks.mp hk).1 _ (S.mem_ranks.mp hk).2 m hmk
  · -- a rank that reached the collective gets the rows the collective gives a group of `n`-row members
    dsimp only
    rw [← hx r hr t ht]
    cases hxv : x r t with
    | error _ => rfl
    | ok v =>
      have hws : ∀ w ∈ (S.members g r t).map fun m => (x m.1 m.2).toOption.getD [], w.length = v.length := by
        simp only [List.mem_map]
        rintro _ ⟨m, hmk, rfl⟩
        have := (hm r hr t ht m hmk).trans (hx r hr t ht).symm
        rw [hxv] at this
        cases hxm : x m.1 m.2 with
        | error _ => rw [hxm] at this; cases this
        | ok w => rw [hxm] at this; exact Option.some.inj this
      simp only [Except.bind, status_ok, Option.some_bind]
      rw [status_apply c (S.index_lt_size g hr ht) hws, List.length_map, length_members]

/-- A collective that the code issues only under a condition that every rank shares. -/
theorem ite_collective_hasStatus (p : Prop) [Decidable p] (g : Group) (c : Collective) {x : Local (List α)}
    {s : Option Nat} (hx : S.HasStatus List.length x s) :
    ∃ z, (if p then S.collective g c x else pure x) = .ok z ∧
      S.HasStatus List.length z (if p then s.bind (Collective.rows c (S.size g) (S.size g)) else s) := by
  split
  · exact collective_hasStatus g c hx
  · exact ⟨x, rfl, hx⟩

theorem allReduce_hasStatus (g : Group) {x : Local (List α)} {s : Option Nat} (hx : S.HasStatus List.length x s) :
    ∃ z, S.collective g .allReduce x = .ok z ∧ S.HasStatus List.length z s := by
  simpa [Collective.rows] using collective_hasStatus g .allReduce hx

theorem ite_allReduce_hasStatus (p : Prop) [Decidable p] (g : Group) {x : Local (List α)} {s : Option Nat}
    (hx : S.HasStatus List.length x s) :
    ∃ z, (if p then S.collective g .allReduce x else pure x) = .ok z ∧ S.HasStatus List.length z s := by
  split
  · exact allReduce_hasStatus g hx
  · exact ⟨x, rfl, hx⟩

end Setup

/-! ### The steps of a layer on shapes -/

/-- The row count of `a + b` for operands of `n` and `m` rows, or none where it raises. -/
def addRows (n m : Nat) : Option Nat :=
  if n = m then some n else if n = 1 then some m else if m = 1 then some n else none

@[simp] theorem addRows_self (n : Nat) : addRows n n = some n := if_pos rfl

theorem status_add [Add α] (a b : List α) : status List.length (add a b) = addRows a.length b.length := by
  unfold add addRows
  split_ifs with h₁ h₂ h₃
  · simp [h₁]
  · obtain ⟨x, rfl⟩ := List.length_eq_one.mp h₂
    simp
  · obtain ⟨y, rfl⟩ := List.length_eq_one.mp h₃
    match a, h₂ with
    | [], _ => rfl
    | _ :: _ :: _, _ => simp
  · match a, b, h₂, h₃ with
    | [], [], _, _ => exact absurd rfl h₁
    | [], _ :: _ :: _, _, _ => rfl
    | _ :: _ :: _, [], _, _ => rfl
    | _ :: _ :: _, _ :: _ :: _, _, _ => rfl

theorem status_addRmsNorm [Add α] (norm : α → α) (h residual : List α) :
    status bothShape (addRmsNorm norm h residual) = (addRows h.length residual.length).map fun n => (n, n) := by
  rw [← status_add]
  unfold addRmsNorm
  cases add h residual <;> simp [bothShape]

theorem status_addOpt [Add α] (s : Option (List α)) (h : List α) :
    status List.length (addOpt s h) = (s.map List.length).bind fun n => addRows n h.length := by
  cases s <;> simp [addOpt, status_add]

theorem status_add_none [Add α] (a b : List α) :
    status pairShape (do let s ← add a b; pure (s, (none : Option (List α)))) =
      (addRows a.length b.length).map fun n => (n, none) := by
  rw [← status_add]
  cases add a b <;> simp [pairShape]

namespace Setup
variable {S : Setup} [AddCommMonoid α]

theorem sharedExperts_hasStatus (ops : LayerOps α) (reduceResults : Bool) {x : Local (List α)} {s : Option Nat}
    (hx : S.HasStatus List.length x s) :
    ∃ z, CustomDeepseekV2SharedExpertMLP.forward S ops reduceResults x = .ok z ∧ S.HasStatus List.length z s :=
  S.ite_allReduce_hasStatus _ .tp (by simpa using hx.map (F := id) fun _ _ _ => List.length_map _ _)

theorem mlp_hasStatus (ops : LayerOps α) {x : Local (List α)} {s : Option Nat} (hx : S.HasStatus List.length x s) :
    ∃ z, CustomDeepseekV2MLP.forward S ops x = .ok z ∧ S.HasStatus List.length z s :=
  S.ite_allReduce_hasStatus _ .tp (by simpa using hx.map (F := id) fun _ _ _ => List.length_map _ _)

omit [AddCommMonoid α] in
/-- The routed experts keep the rows of a pass that takes no MC2 piece, and every rank raised stays raised. -/
theorem moe_hasStatus [SMul ℚ α] (ops : LayerOps α) (config : PretrainedConfig) {isPrefill : Bool}
    {x : Local (List α)} {s : Option Nat} (hchunk : (S.enableMc2 && !isPrefill && 1 < S.tpSize) = false ∨ s = none)
    (hx : S.HasStatus List.length x s) :
    S.HasStatus List.length (CustomDeepseekV2MoE.forward S ops config isPrefill x) s := by
  rcases hchunk with hchunk | rfl
  · simpa using hx.bind (F := some) fun _ _ _ => by simp [CustomDeepseekV2MoE.forward, hchunk, ops.experts_length]
  · exact hx.bind_none _

end Setup

namespace CustomDeepseekV2DecoderLayer

/-- The rows `post_attention_process` gives every rank in a pass that reads no plan, from `n` rows of
    attention output and `m` of residual: a graph-mode decode pass without MC2 all-gathers the rows of
    every DP rank before it adds the residual. -/
def postAttentionRows (S : Setup) (isPrefill : Bool) (n m : Nat) : Option Nat :=
  addRows (if (isPrefill || !S.enableGraphMode) = false ∧ S.enableMc2 = false then S.dpSize * n else n) m

/-- The rows `post_moe_process` gives every rank in a pass that reads no plan, from the shared output of
    `so` rows (none without shared experts) and `n` rows of MoE output and of residual: the shared output
    is added to the MoE output, and a graph-mode decode pass adds the residual; with MC2 it raises. -/
def postMoeRows (S : Setup) (isPrefill : Bool) (so : Option Nat) (n : Nat) : Option Nat :=
  if isPrefill || !S.enableGraphMode then so.bind fun k => addRows k n
  else if S.enableMc2 then none
  else (so.bind fun k => addRows k n).bind fun k => addRows k n

/-- The rows a layer returns on every rank, with no residual, in a pass that reads no plan and takes no
    MC2 piece, from `p.1` rows and the residual `p.2`, or none where every rank raises: the attention half,
    `post_attention_process`, and the fully connected half. -/
def layerRows (L : CustomDeepseekV2DecoderLayer) (S : Setup) (isPrefill : Bool) (p : Nat × Option Nat) :
    Option Nat :=
  if S.isFp16 ∧ L.config.routedScalingFactor = 0 then none
  else (postAttentionRows S isPrefill p.1 (p.2.getD p.1)).bind fun k =>
    if L.isMoe then postMoeRows S isPrefill (if L.config.nSharedExperts.isSome then some k else none) k
    else some k

@[simp] theorem postMoeRows_none (S : Setup) (isPrefill : Bool) (n : Nat) : postMoeRows S isPrefill none n = none := by
  simp [postMoeRows]

theorem postMoeRows_some_self (S : Setup) (isPrefill : Bool) (n : Nat) :
    postMoeRows S isPrefill (some n) n = if (isPrefill || !S.enableGraphMode) = false ∧ S.enableMc2 then none
      else some n := by
  unfold postMoeRows
  cases isPrefill || !S.enableGraphMode <;> cases S.enableMc2 <;> simp

/-- A layer that returns gives the rows of its `post_attention_process`. -/
theorem layerRows_eq_some {L : CustomDeepseekV2DecoderLayer} {S : Setup} {isPrefill : Bool} {p : Nat × Option Nat}
    {k : Nat} (h : L.layerRows S isPrefill p = some k) : postAttentionRows S isPrefill p.1 (p.2.getD p.1) = some k := by
  by_cases h₁ : S.isFp16 ∧ L.config.routedScalingFactor = 0
  · simp [layerRows, h₁] at h
  · rw [layerRows, if_neg h₁] at h
    obtain ⟨k', hk', h⟩ := Option.bind_eq_some.mp h
    rw [hk']
    revert h
    cases L.isMoe <;> cases L.config.nSharedExperts.isSome <;> simp [postMoeRows_some_self]

/-- Without DP, a layer keeps the rows of a pair with no residual, unless the fp16 guard divides by zero,
    or a MoE layer has no shared experts or takes the MC2 branch of a graph-mode decode pass. -/
theorem layerRows_of_dpSize_one {L : CustomDeepseekV2DecoderLayer} {S : Setup} {isPrefill : Bool}
    (hdp : S.dpSize = 1) (hfp : ¬(S.isFp16 = true ∧ L.config.routedScalingFactor = 0))
    (hmoe : L.isMoe = true → L.config.nSharedExperts.isSome = true ∧
      ((isPrefill || !S.enableGraphMode) = true ∨ S.enableMc2 = false)) (n : Nat) :
    L.layerRows S isPrefill (n, none) = some n := by
  rw [layerRows, if_neg hfp]
  simp only [postAttentionRows, hdp, Nat.one_mul, ite_self, Option.getD_none, addRows_self, Option.some_bind]
  cases hm : L.isMoe
  · rfl
  · obtain ⟨hs, hc⟩ := hmoe hm
    rcases hc with hc | hc <;> simp [hs, hc, postMoeRows_some_self]

variable [AddCommMonoid α] (L : CustomDeepseekV2DecoderLayer) {S : Setup} (ops : LayerOps α)
  (meta : Option DPMetadataForPadding) {isPrefill : Bool}
  (hplan : (isPrefill || !S.enableGraphMode) = false ∨ S.dpSize ≤ 1)
include hplan

theorem postAttentionProcess_hasStatus {hidden residual : Local (List α)} {s : Option (Nat × Nat)}
    (hh : S.HasStatus List.length hidden (s.map Prod.fst)) (hr : S.HasStatus List.length residual (s.map Prod.snd)) :
    ∃ z, L.postAttentionProcess S ops meta hidden residual isPrefill = .ok z ∧
      S.HasStatus bothShape z (s.bind fun p => (postAttentionRows S isPrefill p.1 p.2).map fun k => (k, k)) := by
  cases hmode : isPrefill || !S.enableGraphMode
  · -- a graph-mode decode pass
    obtain ⟨rfl, hg⟩ : isPrefill = false ∧ S.enableGraphMode = true := by simpa using hmode
    simp only [postAttentionProcess, hmode, Bool.false_eq_true, if_false]
    refine exists_ok_bind (S.ite_allReduce_hasStatus _ .tp hh) fun h₁ u₁ => ?_
    refine exists_ok_bind (S.ite_collective_hasStatus _ .dp .allGather u₁) fun h₂ u₂ => ⟨_, rfl, ?_⟩
    refine Setup.HasStatus.of_eq (u₂.zip hr (F := fun n m => (addRows n m).map fun k => (k, k))
      fun _ _ a b => status_addRmsNorm _ a b) ?_
    cases s <;> cases hm : S.enableMc2 <;> simp [postAttentionRows, hg, hm, Setup.Collective.rows, Setup.size]
  · have hdp : S.dpSize ≤ 1 := hplan.resolve_left (by simp [hmode])
    simp only [postAttentionProcess, hmode, hdp, if_true, decide_True, Bool.true_or]
    refine exists_ok_bind (S.allReduce_hasStatus .tp hh) fun h₁ u₁ => ⟨_, rfl, ?_⟩
    refine Setup.HasStatus.of_eq (u₁.zip hr (F := fun n m => (addRows n m).map fun k => (k, k))
      fun _ _ a b => status_addRmsNorm _ a b) ?_
    cases s <;> simp [postAttentionRows, hmode]

theorem postMoeProcess_hasStatus {sharedOutput : Local (Option (List α))} {hidden residual : Local (List α)}
    {so : Option (Option Nat)} {s : Option Nat} (hs : S.HasStatus (Option.map List.length) sharedOutput so)
    (hh : S.HasStatus List.length hidden s) (hr : S.HasStatus List.length residual s) :
    ∃ z, L.postMoeProcess S ops meta sharedOutput hidden residual isPrefill = .ok z ∧
      S.HasStatus pairShape z
        (so.bind fun o => s.bind fun n => (postMoeRows S isPrefill o n).map fun k => (k, none)) := by
  have hsum := hs.zip hh (F := fun o n => o.bind fun k => addRows k n) fun _ _ a b => status_addOpt a b
  cases hmode : isPrefill || !S.enableGraphMode
  · -- a graph-mode decode pass
    simp only [postMoeProcess, hmode, Bool.false_eq_true, if_false]
    split
    next hmc2 =>
      -- with MC2 every rank raises
      have hnone : (so.bind fun o => s.bind fun n => (postMoeRows S isPrefill o n).map fun k =>
          (k, (none : Option Nat))) = none := by
        simp [postMoeRows, hmode, hmc2]
      rw [hnone]
      split
      · exact exists_ok_bind (S.sharedExperts_hasStatus ops true hh) fun _ _ =>
          ⟨_, rfl, Setup.HasStatus.bind_error _ _⟩
      · exact ⟨_, rfl, Setup.HasStatus.bind_error _ _⟩
    next hmc2 =>
      refine exists_ok_bind (S.allReduce_hasStatus .wp hsum) fun h₁ u₁ => ⟨_, rfl, ?_⟩
      refine Setup.HasStatus.of_eq (u₁.zip hr (F := fun n m => (addRows n m).map fun k => (k, none))
        fun _ _ a b => status_add_none a b) ?_
      rcases so with _ | _ | _ <;> cases s <;> simp [postMoeRows, hmode, hmc2]
  · have hdp : S.dpSize ≤ 1 := hplan.resolve_left (by simp [hmode])
    simp only [postMoeProcess, hmode, hdp, if_true]
    refine exists_ok_bind (S.allReduce_hasStatus .wp hsum) fun h₁ u₁ => ⟨_, rfl, ?_⟩
    refine Setup.HasStatus.of_eq (u₁.map (F := fun n => (n, none)) fun _ _ _ => rfl) ?_
    rcases so with _ | _ | _ <;> cases s <;> simp [postMoeRows, hmode]

theorem moeFullyConnected_hasStatus [SMul ℚ α] {hidden residual : Local (List α)} {s : Option Nat}
    (hchunk : (S.enableMc2 && !isPrefill && 1 < S.tpSize) = false ∨ s = none) (hh : S.HasStatus List.length hidden s)
    (hr : S.HasStatus List.length residual s) :
    ∃ z, L.moeFullyConnected S ops meta isPrefill hidden residual = .ok z ∧
      S.HasStatus pairShape z (s.bind fun n =>
        (postMoeRows S isPrefill (if L.config.nSharedExperts.isSome then some n else none) n).map
          fun k => (k, none)) := by
  have hpost : ∀ so, S.HasStatus (Option.map List.length) so
      (s.map fun n => if L.config.nSharedExperts.isSome then some n else none) → ∃ z, L.postMoeProcess S ops meta so
      ((CustomDeepseekV2MoE.forward S ops L.config isPrefill hidden).zip so fun _ _ h s =>
        match s with
        | some s => add h s
        | none => pure h) residual isPrefill = .ok z ∧ S.HasStatus pairShape z (s.bind fun n =>
          (postMoeRows S isPrefill (if L.config.nSharedExperts.isSome then some n else none) n).map
            fun k => (k, none)) := fun so hso => by
    -- the routed experts keep the rows, and so does adding the shared output
    have hmoe : S.HasStatus List.length ((CustomDeepseekV2MoE.forward S ops L.config isPrefill hidden).zip so
        fun _ _ h s =>
          match s with
          | some s => add h s
          | none => pure h) s := by
      refine Setup.HasStatus.of_eq ((S.moe_hasStatus ops L.config hchunk hh).zip hso
        (F := fun n o => o.elim (some n) (addRows n))
        fun _ _ a b => by cases b <;> simp [status_add]) ?_
      cases s <;> simp
      split <;> simp [Option.elim]
    obtain ⟨z, hz, hzs⟩ := L.postMoeProcess_hasStatus ops meta hplan hso hmoe hr
    exact ⟨z, hz, Setup.HasStatus.of_eq hzs (by cases s <;> simp)⟩
  rw [moeFullyConnected]
  by_cases hsh : L.config.nSharedExperts.isSome = true
  · rw [if_pos hsh]
    exact exists_ok_bind (S.sharedExperts_hasStatus ops false hh) fun _ u =>
      hpost _ (Setup.HasStatus.of_eq (u.map (F := some) fun _ _ _ => rfl) (by simp [hsh]))
  · rw [if_neg hsh]
    exact hpost _ (Setup.HasStatus.of_eq (hh.map (F := fun _ => none) fun _ _ _ => rfl) (by simp [hsh]))

omit hplan in
theorem denseFullyConnected_hasStatus {hidden residual : Local (List α)} {s : Option Nat}
    (hh : S.HasStatus List.length hidden s) (hr : S.HasStatus List.length residual s) :
    ∃ z, denseFullyConnected S ops hidden residual = .ok z ∧ S.HasStatus pairShape z (s.map fun n => (n, none)) :=
  exists_ok_bind (S.mlp_hasStatus ops hh) fun _ u => ⟨_, rfl, by
    refine Setup.HasStatus.of_eq (u.zip hr (F := fun n m => (addRows n m).map fun k => (k, none))
      fun _ _ a b => status_add_none a b) ?_
    cases s <;> simp⟩

omit hplan [AddCommMonoid α] in
theorem status_attend [SMul ℚ α] (r t : Nat) (p : List α × Option (List α)) :
    status bothShape (L.attend S ops r t p) =
      if S.isFp16 ∧ L.config.routedScalingFactor = 0 then none
      else some ((pairShape p).1, (pairShape p).2.getD (pairShape p).1) := by
  unfold attend
  cases hfp : S.isFp16
  · simp [pairShape, bothShape, ops.selfAttn_length]
  · by_cases hs : L.config.routedScalingFactor = 0
    · simp [hs, trueDiv]
    · simp [hs, trueDiv, pairShape, bothShape, ops.selfAttn_length]
      split_ifs <;> simp

/-- A layer of a pass that reads no plan, on a grid of one status, where a MoE layer takes no MC2 piece
    unless every rank has raised: none of its collectives diverges, and every rank returns the rows of
    `layerRows`, or every rank raises. -/
theorem forward_hasStatus [SMul ℚ α] {x : Local (List α × Option (List α))} {s : Option (Nat × Option Nat)}
    (hchunk : L.isMoe = true → (S.enableMc2 && !isPrefill && 1 < S.tpSize) = false ∨ s = none)
    (hx : S.HasStatus pairShape x s) :
    ∃ z, L.forward S ops meta isPrefill x = .ok z ∧
      S.HasStatus pairShape z (s.bind fun p => (L.layerRows S isPrefill p).map fun k => (k, none)) := by
  have ha := hx.bind (F := fun p => if S.isFp16 ∧ L.config.routedScalingFactor = 0 then none
    else some (p.1, p.2.getD p.1)) (L.status_attend ops)
  refine exists_ok_bind (L.postAttentionProcess_hasStatus ops meta hplan (ha.map (F := Prod.fst) fun _ _ _ => rfl)
    (ha.map (F := Prod.snd) fun _ _ _ => rfl)) fun y hy => ?_
  have hfst : S.HasStatus List.length (y.map fun _ _ => Prod.fst) _ := hy.map (F := Prod.fst) fun _ _ _ => rfl
  have hsnd : S.HasStatus List.length (y.map fun _ _ => Prod.snd) _ := hy.map (F := Prod.snd) fun _ _ _ => rfl
  simp only [Option.map_bind, Option.map_map, Function.comp_def, Option.map_id'] at hfst hsnd
  dsimp only
  -- the fully connected half, and the fp16 scaling of a dense layer, on every rank alike
  cases hm : L.isMoe
  · refine exists_ok_bind (denseFullyConnected_hasStatus ops hfst hsnd) fun w hw => ?_
    split
    next hfp =>
      refine ⟨_, rfl, Setup.HasStatus.of_eq (hw.bind (F := fun p => if L.config.routedScalingFactor = 0 then none
          else some p) fun _ _ p => by
            by_cases hs : L.config.routedScalingFactor = 0 <;> simp [trueDiv, hs, pairShape]) ?_⟩
      simp only [hm, Bool.not_false, Bool.true_and] at hfp
      rcases s with _ | ⟨n, r⟩
      · rfl
      · by_cases hs : L.config.routedScalingFactor = 0 <;> simp [layerRows, hs, hm, hfp]
    · refine ⟨w, rfl, Setup.HasStatus.of_eq hw ?_⟩
      rcases s with _ | ⟨n, r⟩
      · rfl
      · by_cases hc : S.isFp16 = true ∧ L.config.routedScalingFactor = 0 <;> simp [layerRows, hc, hm]
  · refine exists_ok_bind (L.moeFullyConnected_hasStatus ops meta hplan
      ((hchunk hm).imp_right fun h => by simp [h]) hfst hsnd) fun w hw =>
      ⟨w, rfl, Setup.HasStatus.of_eq hw ?_⟩
    rcases s with _ | ⟨n, r⟩
    · rfl
    · by_cases hc : S.isFp16 = true ∧ L.config.routedScalingFactor = 0 <;> simp [layerRows, hc, hm]

end CustomDeepseekV2DecoderLayer

namespace CustomDeepseekV2Model
variable (M : CustomDeepseekV2Model) (S : Setup) (isPrefill : Bool)

/-- The status `runLayers` leaves on every rank, from the status `s` of its input. -/
def runLayersStatus : List Nat → Option (Nat × Option Nat) → Option (Nat × Option Nat)
  | [], s => s
  | i :: is, s => runLayersStatus is (s.bind fun p => ((M.layer i).layerRows S isPrefill p).map fun k => (k, none))

@[simp] theorem runLayersStatus_none : ∀ is, M.runLayersStatus S isPrefill is none = none
  | [] => rfl
  | _ :: is => runLayersStatus_none is

theorem runLayersStatus_of_dpSize_one (hdp : S.dpSize = 1)
    (hfp : ¬(S.isFp16 = true ∧ M.config.routedScalingFactor = 0)) (n : Nat) :
    ∀ is : List Nat, (∀ i ∈ is, (M.layer i).isMoe = true → M.config.nSharedExperts.isSome = true ∧
      ((isPrefill || !S.enableGraphMode) = true ∨ S.enableMc2 = false)) →
        M.runLayersStatus S isPrefill is (some (n, none)) = some (n, none)
  | [], _ => rfl
  | i :: is, hmoe => by
    rw [runLayersStatus, Option.some_bind,
      layerRows_of_dpSize_one hdp hfp (hmoe i (List.mem_cons_self i is)) n]
    exact runLayersStatus_of_dpSize_one hdp hfp n is fun j hj => hmoe j (List.mem_cons_of_mem i hj)

variable {S} [AddCommMonoid α] [SMul ℚ α] (ops : ModelOps α) (meta : Option DPMetadataForPadding) {isPrefill}
  (hplan : (isPrefill || !S.enableGraphMode) = false ∨ S.dpSize ≤ 1)
include hplan

theorem runLayers_hasStatus : ∀ (is : List Nat) {x : Local (List α × Option (List α))}
    {s : Option (Nat × Option Nat)},
    (∀ i ∈ is, (M.layer i).isMoe = true → (S.enableMc2 && !isPrefill && 1 < S.tpSize) = false) →
      S.HasStatus pairShape x s → ∃ z, M.runLayers S ops meta isPrefill is x = .ok z ∧
        S.HasStatus pairShape z (M.runLayersStatus S isPrefill is s)
  | [], x, _, _, hx => ⟨x, rfl, hx⟩
  | i :: is, _, _, hchunk, hx =>
    exists_ok_bind ((M.layer i).forward_hasStatus (ops.layers i) meta hplan
      (fun h => .inl (hchunk i (List.mem_cons_self i is) h)) hx)
      fun _ hy => runLayers_hasStatus is (fun j hj => hchunk j (List.mem_cons_of_mem i hj)) hy

/-- Ranks that have all raised stay raised through the layers, MC2 piece or not. -/
theorem runLayers_error : ∀ (is : List Nat) {x : Local (List α × Option (List α))}, S.HasStatus pairShape x none →
    ∃ z, M.runLayers S ops meta isPrefill is x = .ok z ∧ S.HasStatus pairShape z none
  | [], x, hx => ⟨x, rfl, hx⟩
  | i :: is, _, hx =>
    exists_ok_bind ((M.layer i).forward_hasStatus (ops.layers i) meta hplan (fun _ => .inr rfl) hx)
      fun _ hy => runLayers_error is hy

omit hplan [AddCommMonoid α] [SMul ℚ α] in
/-- The end of a stage keeps the status of what its layers return, with no residual on the last rank. -/
theorem finish_hasStatus {y : Local (List α × Option (List α))} {s : Option (Nat × Option Nat)}
    (hy : S.HasStatus pairShape y s) :
    ∃ z, (if !M.isLastRank then pure (y.map fun _ _ x => StageOutput.intermediateTensors x.1 x.2)
      else pure (y.map fun _ _ x => .hiddenStates (x.1.map ops.norm)) : Spmd (Local (StageOutput α))) = .ok z ∧
      S.HasStatus StageOutput.shape z (s.map fun p => if M.isLastRank then (p.1, none) else p) := by
  cases M.isLastRank
  · exact ⟨_, rfl, Setup.HasStatus.of_eq (hy.map (F := id) fun _ _ _ => rfl) (by simp)⟩
  · exact ⟨_, rfl, Setup.HasStatus.of_eq (hy.map (F := fun p => (p.1, none)) fun _ _ _ => by
      simp [StageOutput.shape, pairShape]) (by simp)⟩

omit hplan [AddCommMonoid α] [SMul ℚ α] in
/-- A stage starts from the embeddings with no residual on the first rank, from the pair it reads on the
    others. -/
theorem start_hasStatus {inputsEmbeds : Local (List α)} {intermediateTensors : Local (List α × Option (List α))}
    {sE : Option Nat} {sI : Option (Nat × Option Nat)} (hE : S.HasStatus List.length inputsEmbeds sE)
    (hI : S.HasStatus pairShape intermediateTensors sI) :
    S.HasStatus pairShape (if M.isFirstRank then inputsEmbeds.map fun _ _ h => (h, none) else intermediateTensors)
      (if M.isFirstRank then sE.map fun n => (n, none) else sI) := by
  split
  · exact hE.map fun _ _ _ => rfl
  · exact hI

/-- A stage run in a pass that reads no plan and takes no MC2 piece, from inputs of one status on every
    rank: no collective diverges, and every rank ends with the status of `runLayersStatus`. -/
theorem forward_hasStatus (hchunk : (S.enableMc2 && !isPrefill && 1 < S.tpSize) = false)
    {inputsEmbeds : Local (List α)} {intermediateTensors : Local (List α × Option (List α))} {sE : Option Nat}
    {sI : Option (Nat × Option Nat)} (hE : S.HasStatus List.length inputsEmbeds sE)
    (hI : S.HasStatus pairShape intermediateTensors sI) :
    ∃ z, M.forward S ops meta isPrefill inputsEmbeds intermediateTensors = .ok z ∧
      S.HasStatus StageOutput.shape z ((M.runLayersStatus S isPrefill M.layerRange
        (if M.isFirstRank then sE.map fun n => (n, none) else sI)).map fun p =>
          if M.isLastRank then (p.1, none) else p) := by
  exact exists_ok_bind (M.runLayers_hasStatus ops meta hplan M.layerRange (fun _ _ _ => hchunk)
    (M.start_hasStatus hE hI)) fun _ hy => M.finish_hasStatus ops hy

end CustomDeepseekV2Model

/-! ### Graph-mode decode with DP -/

section GraphDp
variable {S : Setup} (hgraph : S.enableGraphMode = true) (hmc2 : S.enableMc2 = false) (hdp : 1 < S.dpSize)
include hgraph hmc2 hdp

/-- In a graph-mode decode pass with DP and without MC2, a layer that reads `n > 0` rows and no residual
    returns only if `n = 1`, with the `dp_size` rows of the DP all-gather. -/
theorem layerRows_graph_dp (L : CustomDeepseekV2DecoderLayer) {n k : Nat} (hn : 0 < n)
    (h : L.layerRows S false (n, none) = some k) : n = 1 ∧ k = S.dpSize := by
  have h := layerRows_eq_some h
  have hlt : 2 * n ≤ S.dpSize * n := Nat.mul_le_mul_right n hdp
  simp only [postAttentionRows, hgraph, hmc2, Bool.not_true, Bool.or_false, and_self, if_true,
    Option.getD_none, addRows] at h
  split_ifs at h with h₁ h₂ h₃
  · omega
  · omega
  · subst h₃
    simpa [eq_comm] using h

theorem runLayersStatus_graph_dp (M : CustomDeepseekV2Model) {n : Nat} (hn : 0 < n) (i j : Nat) (is : List Nat) :
    M.runLayersStatus S false (i :: j :: is) (some (n, none)) = none := by
  simp only [CustomDeepseekV2Model.runLayersStatus, Option.some_bind]
  cases h₁ : (M.layer i).layerRows S false (n, none) with
  | none => simp
  | some k =>
    obtain ⟨-, rfl⟩ := layerRows_graph_dp hgraph hmc2 hdp _ hn h₁
    cases h₂ : (M.layer j).layerRows S false (S.dpSize, none) with
    | none => simp [h₂]
    | some _ => exact absurd (layerRows_graph_dp hgraph hmc2 hdp _ (by omega) h₂).1 (by omega)

end GraphDp

/-! ### Passes without DP -/

namespace CustomDeepseekV2Model
variable [AddCommMonoid α] [SMul ℚ α]

/-- Without DP, a stage returns on every rank, with the rows each rank reads and no residual, whatever the
    compute, the stored plan and the inputs: unless the fp16 guard divides by zero, a MoE layer has no
    shared experts, or a MoE layer takes an MC2 branch (the piece of `torch.chunk`, or the graph-mode decode
    branch of `post_moe_process`). -/
theorem forward_rows_of_dpSize_one (M : CustomDeepseekV2Model) (S : Setup) (ops : ModelOps α)
    (meta : Option DPMetadataForPadding) {isPrefill : Bool} (hdp : S.dpSize = 1)
    (hchunk : (S.enableMc2 && !isPrefill && 1 < S.tpSize) = false)
    (hfp : ¬(S.isFp16 = true ∧ M.config.routedScalingFactor = 0))
    (hmoe : ∀ i ∈ M.layerRange, (M.layer i).isMoe = true → M.config.nSharedExperts.isSome = true ∧
      ((isPrefill || !S.enableGraphMode) = true ∨ S.enableMc2 = false))
    {n : Nat} {inputsEmbeds : Local (List α)} {intermediateTensors : Local (List α × Option (List α))}
    (hE : S.HasStatus List.length inputsEmbeds (some n))
    (hI : S.HasStatus pairShape intermediateTensors (some (n, none))) :
    ∃ z, M.forward S ops meta isPrefill inputsEmbeds intermediateTensors = .ok z ∧
      S.HasStatus StageOutput.shape z (some (n, none)) := by
  obtain ⟨z, hz, hs⟩ := M.forward_hasStatus ops meta (.inr hdp.le) hchunk hE hI
  simp only [Option.map_some', ite_self, M.runLayersStatus_of_dpSize_one S isPrefill hdp hfp n _ hmoe] at hs
  exact ⟨z, hz, hs⟩

/-- One DP rank of two TP ranks, in graph mode without MC2. -/
def graphTpPair : Setup := ⟨1, 2, by decide, by decide, true, false, false, false, 1⟩

open CustomDeepseekV2ForCausalLM in
/-- A graph-mode decode pass of three tokens on two TP ranks through the two MoE layers returns three rows
    on every rank. -/
theorem forward_rows_of_dpSize_one_graphDecode :
    graphTpPair.dpSize = 1 ∧ (graphTpPair.enableMc2 && !false && 1 < graphTpPair.tpSize) = false ∧
      ¬(graphTpPair.isFp16 = true ∧ moeStack.model.config.routedScalingFactor = 0) ∧
      (∀ i ∈ moeStack.model.layerRange, (moeStack.model.layer i).isMoe = true →
        moeStack.model.config.nSharedExperts.isSome = true ∧
          ((false || !graphTpPair.enableGraphMode) = true ∨ graphTpPair.enableMc2 = false)) ∧
      graphTpPair.HasStatus List.length (fun _ _ => .ok [(1 : ℚ), 2, 3]) (some 3) ∧
      graphTpPair.HasStatus pairShape (fun _ _ => .ok ([(1 : ℚ), 2, 3], (none : Option (List ℚ)))) (some (3, none)) ∧
      ∃ z, moeStack.model.forward graphTpPair passOps none false (fun _ _ => .ok [1, 2, 3])
          (fun _ _ => .ok ([1, 2, 3], none)) = .ok z ∧ graphTpPair.HasStatus StageOutput.shape z (some (3, none)) :=
  ⟨rfl, rfl, by decide, fun _ _ _ => ⟨rfl, .inr rfl⟩, fun _ _ _ _ => rfl, fun _ _ _ _ => rfl,
    forward_rows_of_dpSize_one moeStack.model graphTpPair passOps none rfl rfl (by decide)
      (fun _ _ _ => ⟨rfl, .inr rfl⟩) (fun _ _ _ _ => rfl) fun _ _ _ _ => rfl⟩

end CustomDeepseekV2Model

namespace CustomDeepseekV2ForCausalLM
variable [AddCommMonoid α] [SMul ℚ α]

/-- Without the MC2 piece of `torch.chunk`, in every pass that reads no padding plan (a graph-mode decode
    pass, or any pass without DP) and whose ranks start from inputs of one shape, no collective of the
    stage diverges: every rank returns, or every rank raises, whatever the config, the compute, the inputs
    and the stored plan. -/
theorem forward_ranks_agree (F : CustomDeepseekV2ForCausalLM) (S : Setup) (ops : ModelOps α)
    (meta : Option DPMetadataForPadding) (cu : List Int) {isPrefill : Bool}
    (hplan : (isPrefill || !S.enableGraphMode) = false ∨ S.dpSize ≤ 1)
    (hchunk : (S.enableMc2 && !isPrefill && 1 < S.tpSize) = false) {inputsEmbeds : Local (List α)}
    {intermediateTensors : Local (List α × Option (List α))} (hE : S.Uniform List.length inputsEmbeds)
    (hI : S.Uniform pairShape intermediateTensors) :
    ∃ z, (F.forward S ops meta cu isPrefill inputsEmbeds intermediateTensors).2 = .ok z ∧
      ((∀ r < S.dpSize, ∀ t < S.tpSize, ∃ o, z r t = .ok o) ∨
        ∀ r < S.dpSize, ∀ t < S.tpSize, ∃ e, z r t = .error e) := by
  have hstage : ∀ meta, ∃ z, F.model.forward S ops meta isPrefill inputsEmbeds intermediateTensors = .ok z ∧
      ((∀ r < S.dpSize, ∀ t < S.tpSize, ∃ o, z r t = .ok o) ∨
        ∀ r < S.dpSize, ∀ t < S.tpSize, ∃ e, z r t = .error e) := fun meta => by
    obtain ⟨z, hz, hs⟩ := F.model.forward_hasStatus ops meta hplan hchunk hE.hasStatus hI.hasStatus
    exact ⟨z, hz, hs.ok_or_error⟩
  unfold forward
  split
  · split
    · exact hstage _
    · exact ⟨_, rfl, .inr fun _ _ _ _ => ⟨_, rfl⟩⟩
  · exact hstage meta

/-- A prefill pass of one token with MC2 on two TP ranks takes no MC2 piece, and the ranks agree. -/
theorem forward_ranks_agree_mc2Prefill :
    ((true || !mc2Pair.enableGraphMode) = false ∨ mc2Pair.dpSize ≤ 1) ∧
      (mc2Pair.enableMc2 && !true && 1 < mc2Pair.tpSize) = false ∧
      mc2Pair.Uniform List.length (fun _ _ => .ok [(1 : ℚ)]) ∧
      mc2Pair.Uniform pairShape (fun _ _ => .ok (([] : List ℚ), (none : Option (List ℚ)))) ∧
      ∃ z, (moeModel.forward mc2Pair passOps none [1] true (fun _ _ => .ok [1]) fun _ _ => .ok ([], none)).2 = .ok z ∧
        ((∀ r < mc2Pair.dpSize, ∀ t < mc2Pair.tpSize, ∃ o, z r t = .ok o) ∨
          ∀ r < mc2Pair.dpSize, ∀ t < mc2Pair.tpSize, ∃ e, z r t = .error e) :=
  ⟨.inr (by decide), rfl, fun _ _ _ _ _ _ _ _ => rfl, fun _ _ _ _ _ _ _ _ => rfl,
    forward_ranks_agree moeModel mc2Pair passOps none [1] (.inr (by decide))
      (show (mc2Pair.enableMc2 && !true && 1 < mc2Pair.tpSize) = false from rfl) (fun _ _ _ _ _ _ _ _ => rfl)
      fun _ _ _ _ _ _ _ _ => rfl⟩

/-- A graph-mode decode pass with DP and without MC2, through a stage of two layers or more, from `n > 0`
    rows and no residual on every rank: the DP all-gather of `post_attention_process` gives every rank the
    rows of every DP rank, the residual add that follows cannot match them to the rank's own rows by the
    second layer, and every rank raises, whatever the config, the compute and the stored plan. -/
theorem forward_graph_dp_raises (F : CustomDeepseekV2ForCausalLM) (S : Setup) (ops : ModelOps α)
    (meta : Option DPMetadataForPadding) (cu : List Int) (hgraph : S.enableGraphMode = true)
    (hmc2 : S.enableMc2 = false) (hdp : 1 < S.dpSize) (hlayers : F.model.startLayer + 2 ≤ F.model.endLayer)
    {n : Nat} (hn : 0 < n) {inputsEmbeds : Local (List α)} {intermediateTensors : Local (List α × Option (List α))}
    (hE : S.HasStatus List.length inputsEmbeds (some n))
    (hI : S.HasStatus pairShape intermediateTensors (some (n, none))) :
    ∃ z, (F.forward S ops meta cu false inputsEmbeds intermediateTensors).2 = .ok z ∧
      ∀ r < S.dpSize, ∀ t < S.tpSize, ∃ e, z r t = .error e := by
  obtain ⟨z, hz, hs⟩ := F.model.forward_hasStatus ops meta
    (show (false || !S.enableGraphMode) = false ∨ S.dpSize ≤ 1 from .inl (by simp [hgraph])) (by simp [hmc2]) hE hI
  obtain ⟨i, j, is, hrange⟩ : ∃ i j is, F.model.layerRange = i :: j :: is := by
    obtain ⟨m, hm⟩ : ∃ m, F.model.endLayer - F.model.startLayer = m + 2 :=
      ⟨_, (Nat.sub_add_cancel (by omega)).symm⟩
    exact ⟨_, _, _, by rw [CustomDeepseekV2Model.layerRange, hm, List.range'_succ, List.range'_succ]⟩
  simp only [Option.map_some', ite_self, hrange, runLayersStatus_graph_dp hgraph hmc2 hdp F.model hn] at hs
  exact ⟨z, by simpa [forward, hgraph] using hz, hs.error_of_none⟩

/-- Two DP ranks of one TP rank, in graph mode without MC2. -/
def graphDpPair : Setup := ⟨2, 1, by decide, by decide, true, false, false, false, 1⟩

/-- One token on each of two DP ranks in a graph-mode decode pass through two MoE layers: every rank
    raises. -/
theorem forward_graph_dp_raises_moeStack :
    graphDpPair.enableGraphMode = true ∧ graphDpPair.enableMc2 = false ∧ 1 < graphDpPair.dpSize ∧
      moeStack.model.startLayer + 2 ≤ moeStack.model.endLayer ∧ 0 < 1 ∧
      graphDpPair.HasStatus List.length (fun _ _ => .ok [(1 : ℚ)]) (some 1) ∧
      graphDpPair.HasStatus pairShape (fun _ _ => .ok ([(1 : ℚ)], (none : Option (List ℚ)))) (some (1, none)) ∧
      ∃ z, (moeStack.forward graphDpPair passOps none [] false (fun _ _ => .ok [1]) fun _ _ => .ok ([1], none)).2 =
        .ok z ∧ ∀ r < graphDpPair.dpSize, ∀ t < graphDpPair.tpSize, ∃ e, z r t = .error e :=
  ⟨rfl, rfl, by decide, by decide, by decide, fun _ _ _ _ => rfl, fun _ _ _ _ => rfl,
    forward_graph_dp_raises moeStack graphDpPair passOps none [] rfl rfl (by decide) (by decide) (by decide)
      (fun _ _ _ _ => rfl) fun _ _ _ _ => rfl⟩

end CustomDeepseekV2ForCausalLM

end DeepseekAscend
