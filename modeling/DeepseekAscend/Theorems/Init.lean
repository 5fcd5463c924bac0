import DeepseekAscend.Model

/-! The construction of a stage (§3). `make_layers` builds the layers `start_layer .. end_layer`, each by
the checks of `CustomDeepseekV2DecoderLayer.__init__`, and stops at the first that raises. Layer by layer
the checks are `Valid`. Over the stage they come to `Buildable`, a condition read once off the config and the
layer range: the stage builds exactly when it holds, and then its layers are the `layer i` that `forward`
runs. -/

namespace DeepseekAscend

theorem unit_bind_eq_ok {ε β : Type} {x : Except ε Unit} {y : Except ε β} {b : β} :
    (x >>= fun _ => y) = .ok b ↔ x = .ok () ∧ y = .ok b := by
  cases x <;> simp

namespace CustomDeepseekV2DecoderLayer

/-- What `CustomDeepseekV2MLAAttention.__init__` asks of the config: the heads split evenly over the TP
    ranks, and a `rope_scaling` dict that is not empty has a `factor`. -/
def MlaValid (config : PretrainedConfig) (tpSize : Nat) : Prop :=
  config.numAttentionHeads % tpSize = 0 ∧ ∀ keys ∈ config.ropeScaling, keys ≠ [] → "factor" ∈ keys

/-- The checks of `__init__` that layer `i` passes: the MLA attention's, the activation is SiLU and, from
    `first_k_dense_replace` on in a config with routed experts, `moe_layer_freq` is not zero and a MoE
    layer has no more TP ranks than routed experts. -/
def Valid (config : PretrainedConfig) (useMla : Bool) (tpSize i : Nat) : Prop :=
  (useMla = true → MlaValid config tpSize) ∧ config.hiddenAct = "silu" ∧
    ∀ n ∈ config.nRoutedExperts, config.firstKDenseReplace ≤ i →
      config.moeLayerFreq ≠ 0 ∧ (i % config.moeLayerFreq = 0 → tpSize ≤ n)

instance (config : PretrainedConfig) (useMla : Bool) (tpSize i : Nat) : Decidable (Valid config useMla tpSize i) :=
  inferInstanceAs (Decidable ((useMla = true → _ ∧ ∀ keys ∈ config.ropeScaling, keys ≠ [] → "factor" ∈ keys) ∧ _ ∧
    ∀ n ∈ config.nRoutedExperts, _ → _ ∧ (_ → tpSize ≤ n)))

theorem checkHiddenAct_eq_ok_iff {a : String} : checkHiddenAct a = .ok () ↔ a = "silu" := by
  unfold checkHiddenAct
  split <;> simp_all

theorem checkMlaAttention_eq_ok_iff {config : PretrainedConfig} {tpSize : Nat} :
    checkMlaAttention config tpSize = .ok () ↔ MlaValid config tpSize := by
  unfold checkMlaAttention MlaValid
  rcases config.ropeScaling with _ | keys <;> split_ifs <;> simp_all

/-- `__init__` builds layer `i` exactly when it passes the checks. -/
theorem init_eq_ok_iff {config : PretrainedConfig} {useMla : Bool} {tpSize i : Nat}
    {L : CustomDeepseekV2DecoderLayer} :
    init config useMla tpSize i = .ok L ↔ Valid config useMla tpSize i ∧ L = ⟨config, i⟩ := by
  have hmla : (if useMla then checkMlaAttention config tpSize else pure ()) = .ok () ↔
      (useMla = true → MlaValid config tpSize) := by
    cases useMla <;> simp [checkMlaAttention_eq_ok_iff]
  unfold init Valid
  rw [unit_bind_eq_ok, hmla]
  clear hmla
  rcases config.nRoutedExperts with _ | n
  · simp [unit_bind_eq_ok, checkHiddenAct_eq_ok_iff, eq_comm (b := L), and_assoc]
  · simp only [Option.mem_def, Option.some.injEq, forall_eq']
    split_ifs <;> simp_all [unit_bind_eq_ok, checkHiddenAct_eq_ok_iff, eq_comm (b := L), and_assoc]

example : init ⟨1, 0, 1, some 1, some 1, 1, "silu", 2, none⟩ true 2 0 =
    .error (.valueError "Tensor parallel size 2 is greater than the number of experts 1.") := rfl

example : init ⟨1, 0, 1, some 2, some 1, 1, "silu", 2, some ["type"]⟩ true 2 0 = .error (.keyError "factor") := rfl

end CustomDeepseekV2DecoderLayer

namespace CustomDeepseekV2Model
open CustomDeepseekV2DecoderLayer

variable (M : CustomDeepseekV2Model) (tpSize : Nat)

/-- What `make_layers` asks of the config to build the stage: a stage with a layer needs the MLA attention's
    checks (with `use_mla`) and SiLU; in a config with routed experts, a non-zero `moe_layer_freq` once a
    layer reaches `first_k_dense_replace`, and no more TP ranks than routed experts once the stage holds a
    MoE layer. -/
def Buildable : Prop :=
  M.startLayer < M.endLayer →
    (M.useMla = true → MlaValid M.config tpSize) ∧ M.config.hiddenAct = "silu" ∧
      ∀ n ∈ M.config.nRoutedExperts, (M.config.firstKDenseReplace < M.endLayer → M.config.moeLayerFreq ≠ 0) ∧
        ((∃ i ∈ M.layerRange, (M.layer i).isMoe = true) → tpSize ≤ n)

theorem forall_valid_iff_buildable :
    (∀ i ∈ M.layerRange, Valid M.config M.useMla tpSize i) ↔ M.Buildable tpSize := by
  simp only [Valid, layerRange, List.mem_range'_1, Buildable, isMoe, layer, Bool.and_eq_true, decide_eq_true_eq,
    beq_iff_eq, Option.isSome_iff_exists, Option.mem_def]
  constructor
  · -- the first layer carries the config's checks; the first layer from `first_k_dense_replace` on, the
    -- modulus; a MoE layer, the bound on the TP ranks
    intro hv hne
    obtain ⟨hmla, hact, -⟩ := hv M.startLayer ⟨le_refl _, by omega⟩
    refine ⟨hmla, hact, fun n hn => ⟨fun hk => ?_, ?_⟩⟩
    · exact ((hv (max M.startLayer M.config.firstKDenseReplace) ⟨le_max_left _ _, by omega⟩).2.2 n hn
        (le_max_right _ _)).1
    · rintro ⟨i, hi, ⟨-, hk⟩, hm⟩
      exact ((hv i hi).2.2 n hn hk).2 hm
  · rintro hb i ⟨h₁, h₂⟩
    obtain ⟨hmla, hact, hmoe⟩ := hb (by omega)
    exact ⟨hmla, hact, fun n hn hk => ⟨(hmoe n hn).1 (by omega), fun hm =>
      (hmoe n hn).2 ⟨i, ⟨h₁, h₂⟩, ⟨⟨n, hn⟩, hk⟩, hm⟩⟩⟩

instance : Decidable (M.Buildable tpSize) := decidable_of_iff _ (M.forall_valid_iff_buildable tpSize)

theorem mapM_init_eq_ok_iff (config : PretrainedConfig) (useMla : Bool) :
    ∀ (is : List Nat) (layers : List CustomDeepseekV2DecoderLayer),
      is.mapM (CustomDeepseekV2DecoderLayer.init config useMla tpSize) = .ok layers ↔
        (∀ i ∈ is, Valid config useMla tpSize i) ∧ layers = is.map fun i => ⟨config, i⟩
  | [], layers => by rw [List.mapM_nil]; simp [eq_comm]
  | i :: is, layers => by
    rw [List.mapM_cons]
    cases h : CustomDeepseekV2DecoderLayer.init config useMla tpSize i with
    | error e =>
      have hv : ¬ Valid config useMla tpSize i := fun hv => by rw [init_eq_ok_iff.mpr ⟨hv, rfl⟩] at h; cases h
      simp [hv]
    | ok L =>
      obtain ⟨hv, rfl⟩ := init_eq_ok_iff.mp h
      cases h' : is.mapM (CustomDeepseekV2DecoderLayer.init config useMla tpSize) with
      | error e =>
        have hs : ¬ ∀ j ∈ is, Valid config useMla tpSize j := fun hs => by
          rw [(mapM_init_eq_ok_iff config useMla is _).mpr ⟨hs, rfl⟩] at h'; cases h'
        simp [hs]
      | ok ls =>
        obtain ⟨hs, rfl⟩ := (mapM_init_eq_ok_iff config useMla is ls).mp h'
        simp only [ok_bind, pure_eq_ok, Except.ok.injEq, List.forall_mem_cons, List.map_cons]
        exact ⟨fun h => ⟨⟨hv, hs⟩, h.symm⟩, fun h => h.2.symm⟩

/-- `make_layers` builds the stage exactly when the config meets what its layers ask of it, and then it
    builds the layers that `forward` runs. -/
theorem init_eq_ok_iff_valid (layers : List CustomDeepseekV2DecoderLayer) :
    M.init tpSize = .ok layers ↔ M.Buildable tpSize ∧ layers = M.layerRange.map M.layer := by
  rw [init, mapM_init_eq_ok_iff, forall_valid_iff_buildable]
  rfl

example : ¬ (⟨⟨1, 0, 1, some 2, some 1, 1, "silu", 2, none⟩, 0, 2, true, true, true⟩ : CustomDeepseekV2Model).Buildable 3 ∧
    (⟨⟨1, 0, 1, some 2, some 1, 1, "silu", 2, none⟩, 0, 2, true, true, false⟩ : CustomDeepseekV2Model).Buildable 2 := by
  decide

end CustomDeepseekV2Model

end DeepseekAscend
