import DeepseekAscend.Tensor

/-! The ranks of the `dp × tp` grid and the collectives through which they meet (§5).

Every rank runs the same layer code, and its control flow reads only the configuration and the flags
of the pass, which all ranks share. A program is therefore one sequence of local steps and collectives
that every rank takes in the same order, and its value is the family of every rank's local value, or
of the exception the rank raised (`Local`). A collective of a group gives each member what torch gives
it (the sum, the concatenation in group order, or the member's chunk of the sum) when all members
reached it with tensors of one shape. When some members had raised and others reached it, or the
shapes differ, the ranks have diverged (`Fault`): in the real system a hang or a silent corruption.

The TP group joins the ranks of one DP rank and the DP group the ranks of one TP position, as vLLM
lays them out. The weight-parallel group comes from `get_wp_group`, which is not in src/; it is taken
as the whole grid, rank `(r, t)` at position `r * tp_size + t`. -/

namespace DeepseekAscend

/-- The process groups the layer code uses. -/
inductive Group where
  | tp | dp | wp
  deriving DecidableEq, Repr

/-- The collectives the layer code issues, all along dimension 0, reductions by sum. -/
inductive Collective where
  | allReduce | allGather | reduceScatter
  deriving DecidableEq, Repr

/-- A collective that the members of a group did not all reach with tensors of one shape. -/
inductive Fault where
  | diverged (g : Group) (c : Collective)
  deriving DecidableEq, Repr

/-- The local value of every rank `(r, t)`, or the exception it raised. -/
abbrev Local (β : Type) := Nat → Nat → Except Error β

/-- Programs run on the whole grid: they return every rank's local value, unless the ranks diverged. -/
abbrev Spmd := Except Fault

/-- The grid and the flags of the pass, which every rank shares. -/
structure Setup where
  dpSize : Nat
  tpSize : Nat
  dpSize_pos : 0 < dpSize
  tpSize_pos : 0 < tpSize
  /-- `additional_config["enable_graph_mode"]`. -/
  enableGraphMode : Bool
  /-- `envs_ascend.VLLM_ENABLE_MC2`. -/
  enableMc2 : Bool
  /-- The activations are `torch.float16`. -/
  isFp16 : Bool
  /-- The MLPs take the W8A8 dynamic-quant path (`is_dynamic_quant`). -/
  isDynamicQuant : Bool
  /-- `down_proj.tp_size` of the shared experts' `RowParallelLinearWp`, which is not in src/. -/
  wpLinearTpSize : Nat

variable {α β γ δ : Type}

namespace Local

/-- Local code on every rank; a rank that has raised stays raised. -/
def bind (x : Local β) (f : Nat → Nat → β → Except Error γ) : Local γ := fun r t => (x r t).bind (f r t)

/-- Local code that cannot raise. -/
def map (x : Local β) (f : Nat → Nat → β → γ) : Local γ := fun r t => (x r t).map (f r t)

/-- Local code reading two values of the rank. -/
def zip (x : Local β) (y : Local γ) (f : Nat → Nat → β → γ → Except Error δ) : Local δ :=
  fun r t => (x r t).bind fun a => (y r t).bind (f r t a)

@[simp] theorem bind_apply (x : Local β) (f : Nat → Nat → β → Except Error γ) (r t : Nat) :
    x.bind f r t = (x r t).bind (f r t) := rfl

@[simp] theorem map_apply (x : Local β) (f : Nat → Nat → β → γ) (r t : Nat) : x.map f r t = (x r t).map (f r t) := rfl

@[simp] theorem zip_apply (x : Local β) (y : Local γ) (f : Nat → Nat → β → γ → Except Error δ) (r t : Nat) :
    x.zip y f r t = (x r t).bind fun a => (y r t).bind (f r t a) := rfl

end Local

/-- A program that returns a value with `Q`, followed by one that returns a value with `P` from every
    value with `Q`, returns a value with `P`. -/
theorem exists_ok_bind {ε : Type} {m : Except ε β} {k : β → Except ε γ} {Q : β → Prop} {P : γ → Prop}
    (hm : ∃ y, m = .ok y ∧ Q y) (hk : ∀ y, Q y → ∃ z, k y = .ok z ∧ P z) : ∃ z, (m >>= k) = .ok z ∧ P z := by
  obtain ⟨y, rfl, hy⟩ := hm
  exact hk y hy

@[simp] theorem ok_bind' {ε : Type} (x : β) (f : β → Except ε γ) : (Except.ok x).bind f = f x := rfl

@[simp] theorem ok_map {ε : Type} (x : β) (f : β → γ) : (Except.ok x : Except ε β).map f = .ok (f x) := rfl

namespace Setup
variable (S : Setup)

/-- Every rank of the grid, in weight-parallel order. -/
def ranks : List (Nat × Nat) := (List.range S.dpSize).flatMap fun r => (List.range S.tpSize).map (r, ·)

/-- The members of the group `g` of rank `(r, t)`, in group order. -/
def members : Group → Nat → Nat → List (Nat × Nat)
  | .tp, r, _ => (List.range S.tpSize).map (r, ·)
  | .dp, _, t => (List.range S.dpSize).map (·, t)
  | .wp, _, _ => S.ranks

/-- The position of rank `(r, t)` in its group `g`. -/
def index : Group → Nat → Nat → Nat
  | .tp, _, t => t
  | .dp, r, _ => r
  | .wp, r, t => r * S.tpSize + t

/-- The world size of the group `g`. -/
def size : Group → Nat
  | .tp => S.tpSize
  | .dp => S.dpSize
  | .wp => S.dpSize * S.tpSize

end Setup

/-- The members' states at a collective agree: all had raised, or all hold tensors of one row count. -/
def agree (xs : List (Except Error (List α))) : Bool :=
  xs.all (fun x => match x with | .error _ => true | .ok _ => false) ||
    match xs with
    | .ok v :: _ => xs.all fun x => match x with | .ok w => w.length == v.length | .error _ => false
    | _ => false

/-- What the collective `c` gives the member at `index` of a group of `size` ranks whose members hold
    the tensors `xs` of `n` rows. -/
def Collective.apply [AddCommMonoid α] (c : Collective) (size index n : Nat) (xs : List (List α)) :
    Except Error (List α) :=
  match c with
  | .allReduce => .ok (sumRows n xs)
  | .allGather => .ok xs.flatten
  | .reduceScatter =>
    if n % size = 0 then .ok (((sumRows n xs).drop (index * (n / size))).take (n / size))
    else .error (.notDivisible n size)

/-- The collective `c` over the groups `g` of the grid. -/
def Setup.collective [AddCommMonoid α] (S : Setup) (g : Group) (c : Collective) (x : Local (List α)) :
    Spmd (Local (List α)) :=
  if S.ranks.all fun k => agree ((S.members g k.1 k.2).map fun m => x m.1 m.2) then
    .ok fun r t => (x r t).bind fun v =>
      c.apply (S.size g) (S.index g r t) v.length ((S.members g r t).map fun m => (x m.1 m.2).toOption.getD [])
  else .error (.diverged g c)

/-- On every rank of the grid, `x` returns `v`. -/
def Setup.OkOn (S : Setup) (x : Local β) (v : Nat → Nat → β) : Prop :=
  ∀ r < S.dpSize, ∀ t < S.tpSize, x r t = .ok (v r t)

/-! ### Local code on ranks that all returned -/

namespace Setup.OkOn
variable {S : Setup} {x : Local β} {v : Nat → Nat → β}

theorem congr (hx : S.OkOn x v) {w : Nat → Nat → β} (h : ∀ r < S.dpSize, ∀ t < S.tpSize, v r t = w r t) :
    S.OkOn x w :=
  fun r hr t ht => (hx r hr t ht).trans (congrArg _ (h r hr t ht))

theorem map (hx : S.OkOn x v) (f : Nat → Nat → β → γ) : S.OkOn (x.map f) fun r t => f r t (v r t) :=
  fun r hr t ht => by simp [hx r hr t ht]

theorem bind (hx : S.OkOn x v) {f : Nat → Nat → β → Except Error γ} {w : Nat → Nat → γ}
    (hf : ∀ r < S.dpSize, ∀ t < S.tpSize, f r t (v r t) = .ok (w r t)) : S.OkOn (x.bind f) w :=
  fun r hr t ht => by simp [hx r hr t ht, hf r hr t ht]

theorem zip (hx : S.OkOn x v) {y : Local γ} {u : Nat → Nat → γ} (hy : S.OkOn y u)
    {f : Nat → Nat → β → γ → Except Error δ} {w : Nat → Nat → δ}
    (hf : ∀ r < S.dpSize, ∀ t < S.tpSize, f r t (v r t) (u r t) = .ok (w r t)) : S.OkOn (x.zip y f) w :=
  fun r hr t ht => by simp [hx r hr t ht, hy r hr t ht, hf r hr t ht]

end Setup.OkOn

/-! ### Collectives on ranks that all reached them -/


namespace Setup
variable (S : Setup)

theorem mem_ranks {k : Nat × Nat} : k ∈ S.ranks ↔ k.1 < S.dpSize ∧ k.2 < S.tpSize := by
  obtain ⟨r, t⟩ := k
  simp [ranks]

theorem mem_members {g : Group} {r t : Nat} (hr : r < S.dpSize) (ht : t < S.tpSize) {m : Nat × Nat}
    (hm : m ∈ S.members g r t) : m.1 < S.dpSize ∧ m.2 < S.tpSize := by
  cases g <;> simp only [members, List.mem_map, List.mem_range] at hm
  · obtain ⟨t', ht', rfl⟩ := hm
    exact ⟨hr, ht'⟩
  · obtain ⟨r', hr', rfl⟩ := hm
    exact ⟨hr', ht⟩
  · exact (S.mem_ranks).mp hm

theorem agree_of_ok {xs : List (Except Error (List α))} (n : Nat)
    (h : ∀ x ∈ xs, ∃ v, x = .ok v ∧ v.length = n) : agree xs = true := by
  rcases xs with _ | ⟨x, xs⟩
  · rfl
  · obtain ⟨v, rfl, hv⟩ := h x (List.mem_cons_self _ _)
    simp only [agree, Bool.or_eq_true, List.all_eq_true]
    refine Or.inr fun y hy => ?_
    obtain ⟨w, rfl, hw⟩ := h y hy
    simp [hw, hv]

/-- A collective that every member reaches with tensors of one row count gives every rank of the grid
    the collective's value on the members' tensors. -/
theorem collective_eq [AddCommMonoid α] (g : Group) (c : Collective) {x : Local (List α)} (v : Nat → Nat → List α)
    (hx : S.OkOn x v)
    (hlen : ∀ r < S.dpSize, ∀ t < S.tpSize, ∀ m ∈ S.members g r t, (v m.1 m.2).length = (v r t).length) :
    S.collective g c x = .ok (fun r t => (x r t).bind fun w =>
      c.apply (S.size g) (S.index g r t) w.length ((S.members g r t).map fun m => (x m.1 m.2).toOption.getD [])) ∧
    ∀ r < S.dpSize, ∀ t < S.tpSize,
      ((S.members g r t).map fun m => (x m.1 m.2).toOption.getD []) = (S.members g r t).map fun m => v m.1 m.2 := by
  refine ⟨if_pos (List.all_eq_true.mpr fun k hk => agree_of_ok (v k.1 k.2).length ?_), fun r hr t ht => ?_⟩
  · obtain ⟨hr, ht⟩ := (S.mem_ranks).mp hk
    simp only [List.mem_map]
    rintro _ ⟨m, hm, rfl⟩
    obtain ⟨hm1, hm2⟩ := S.mem_members hr ht hm
    exact ⟨_, hx _ hm1 _ hm2, hlen _ hr _ ht m hm⟩
  · refine List.map_congr_left fun m hm => ?_
    obtain ⟨hm1, hm2⟩ := S.mem_members hr ht hm
    simp [hx _ hm1 _ hm2, Except.toOption]

variable [AddCommMonoid α] {x : Local (List α)} {v : Nat → Nat → List α} (g : Group)

/-- An all-reduce that every member reaches with tensors of one row count. -/
theorem allReduce_okOn (hx : S.OkOn x v)
    (hlen : ∀ r < S.dpSize, ∀ t < S.tpSize, ∀ m ∈ S.members g r t, (v m.1 m.2).length = (v r t).length) :
    ∃ y, S.collective g .allReduce x = .ok y ∧
      S.OkOn y fun r t => sumRows (v r t).length ((S.members g r t).map fun m => v m.1 m.2) := by
  obtain ⟨h, hv⟩ := S.collective_eq g .allReduce v hx hlen
  exact ⟨_, h, fun r hr t ht => by simp [hx r hr t ht, hv r hr t ht, Collective.apply]⟩

/-- An all-gather that every member reaches with tensors of one row count. -/
theorem allGather_okOn (hx : S.OkOn x v)
    (hlen : ∀ r < S.dpSize, ∀ t < S.tpSize, ∀ m ∈ S.members g r t, (v m.1 m.2).length = (v r t).length) :
    ∃ y, S.collective g .allGather x = .ok y ∧ S.OkOn y fun r t => ((S.members g r t).map fun m => v m.1 m.2).flatten := by
  obtain ⟨h, hv⟩ := S.collective_eq g .allGather v hx hlen
  exact ⟨_, h, fun r hr t ht => by simp [hx r hr t ht, hv r hr t ht, Collective.apply]⟩

/-- A reduce-scatter that every member reaches with tensors of one row count, a multiple of the group's
    size: the member's piece of the sum. -/
theorem reduceScatter_okOn (hx : S.OkOn x v)
    (hlen : ∀ r < S.dpSize, ∀ t < S.tpSize, ∀ m ∈ S.members g r t, (v m.1 m.2).length = (v r t).length)
    (hdiv : ∀ r < S.dpSize, ∀ t < S.tpSize, (v r t).length % S.size g = 0) :
    ∃ y, S.collective g .reduceScatter x = .ok y ∧ S.OkOn y fun r t =>
      let n := (v r t).length
      ((sumRows n ((S.members g r t).map fun m => v m.1 m.2)).drop (S.index g r t * (n / S.size g))).take (n / S.size g) := by
  obtain ⟨h, hv⟩ := S.collective_eq g .reduceScatter v hx hlen
  exact ⟨_, h, fun r hr t ht => by simp [hx r hr t ht, hv r hr t ht, Collective.apply, hdiv r hr t ht]⟩

theorem map_members_tp (r t : Nat) (F : Nat × Nat → β) :
    (S.members .tp r t).map F = (List.range S.tpSize).map fun t' => F (r, t') := by
  simp [members, Function.comp_def]

theorem map_members_dp (r t : Nat) (F : Nat × Nat → β) :
    (S.members .dp r t).map F = (List.range S.dpSize).map fun r' => F (r', t) := by
  simp [members, Function.comp_def]

theorem map_members_wp (r t : Nat) (F : Nat × Nat → β) :
    (S.members .wp r t).map F = (List.range S.dpSize).flatMap fun r' => (List.range S.tpSize).map fun t' => F (r', t') := by
  simp [members, ranks, List.map_flatMap, Function.comp_def]

end Setup

end DeepseekAscend
