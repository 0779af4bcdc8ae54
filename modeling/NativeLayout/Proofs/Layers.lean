/-
# Layers of configuration

Configuration comes in layers, and a later layer counts where two say something. It does
not matter in what order layers are taken together, an empty layer says nothing, and what
many layers come to is for each option, list and name what was said last. A list that is
empty says nothing, and so no layer can take the flags of an earlier one away.

The overrides of an oracle are a layer of their own at the bottom. Laying other layers over
them one by one comes to the same as laying them over each other first.
-/

import NativeLayout.Capability.Oracle
import NativeLayout.Proofs.Dictionary
import NativeLayout.Settings

namespace NativeLayout

variable {α β : Type}

/-- If what a layer says hides what lies under it, layers on an empty one come to what was said
last. -/
theorem view_foldl_merge (view : β → Option α) {merge : β → β → β} {empty : β}
    (silent : view empty = none)
    (later : ∀ base top, view (merge base top) = (view top).or (view base)) (layers : List β) :
    view (layers.foldl merge empty) = lastSaid view layers := by
  rw [view_foldl view later, silent, Option.or_none]

/-! ## The toolchain -/

namespace ToolchainSettings

/-- What a list says in a layer. -/
def filled? (list : List String) : Option (List String) := if list.isEmpty then none else some list

theorem filled?_overlay (base top : List String) :
    filled? (overlay base top) = (filled? top).or (filled? base) := by
  cases top <;> rfl

theorem getD_filled? (list : List String) : (filled? list).getD [] = list := by
  cases list <;> rfl

theorem nil_overlay (top : List String) : overlay [] top = top := by
  cases top <;> rfl

theorem overlay_assoc (a b c : List String) :
    overlay (overlay a b) c = overlay a (overlay b c) := by
  cases c <;> rfl

theorem merge_assoc (a b c : ToolchainSettings) : (a.merge b).merge c = a.merge (b.merge c) := by
  simp only [merge, Option.or_assoc, overlay_assoc]

theorem empty_merge (a : ToolchainSettings) : merge {} a = a := by
  simp only [merge, Option.or_none, nil_overlay]

theorem merge_empty (a : ToolchainSettings) : a.merge {} = a := rfl

/-- Settings have what the last of some layers says, part by part. -/
structure LastOf (layers : List ToolchainSettings) (settings : ToolchainSettings) : Prop where
  cc : settings.cc = lastSaid (·.cc) layers
  target : settings.target = lastSaid (·.target) layers
  sysroot : settings.sysroot = lastSaid (·.sysroot) layers
  cflags : settings.cflags = (lastSaid (filled? ·.cflags) layers).getD []
  includeDirs : settings.includeDirs = (lastSaid (filled? ·.includeDirs) layers).getD []

/-- Of lists laid over each other the last one that is not empty is left. -/
theorem list_foldl {part : ToolchainSettings → List String} (silent : part {} = [])
    (later : ∀ base top, part (merge base top) = overlay (part base) (part top))
    (layers : List ToolchainSettings) :
    part (layers.foldl merge {}) =
      (lastSaid (fun layer => filled? (part layer)) layers).getD [] := by
  have last : filled? (part (layers.foldl merge {})) =
      lastSaid (fun layer => filled? (part layer)) layers := by
    apply view_foldl_merge (fun layer => filled? (part layer))
    · exact congrArg filled? silent
    · intro base top
      rw [later, filled?_overlay]
  rw [← last, getD_filled?]

theorem lastOf_foldl (layers : List ToolchainSettings) :
    LastOf layers (layers.foldl merge {}) where
  cc := view_foldl_merge (·.cc) rfl (fun _ _ => rfl) layers
  target := view_foldl_merge (·.target) rfl (fun _ _ => rfl) layers
  sysroot := view_foldl_merge (·.sysroot) rfl (fun _ _ => rfl) layers
  cflags := list_foldl rfl (fun _ _ => rfl) layers
  includeDirs := list_foldl rfl (fun _ _ => rfl) layers

end ToolchainSettings

/-! ## Capabilities -/

namespace CapabilityConfig

theorem merge_assoc (a b c : CapabilityConfig) : (a.merge b).merge c = a.merge (b.merge c) := by
  simp only [merge, Option.or_assoc, Dictionary.merge_assoc]

theorem empty_merge (a : CapabilityConfig) : merge {} a = a := by
  simp only [merge, Option.or_none, Dictionary.empty_merge]

theorem merge_empty (a : CapabilityConfig) : a.merge {} = a := rfl

/-- A layer has what the last of some layers says, for each name on its own. -/
structure LastOf (layers : List CapabilityConfig) (config : CapabilityConfig) : Prop where
  unknown : config.unknown = lastSaid (·.unknown) layers
  structs : ∀ name, config.structs.get? name = lastSaid (·.structs.get? name) layers
  headers : ∀ name, config.headers.get? name = lastSaid (·.headers.get? name) layers

theorem lastOf_foldl (layers : List CapabilityConfig) :
    LastOf layers (layers.foldl merge {}) where
  unknown := view_foldl_merge (·.unknown) rfl (fun _ _ => rfl) layers
  structs name :=
    view_foldl_merge (·.structs.get? name) rfl (fun _ _ => Dictionary.get?_merge) layers
  headers name :=
    view_foldl_merge (·.headers.get? name) rfl (fun _ _ => Dictionary.get?_merge) layers

end CapabilityConfig

/-! ## Oracles -/

/-- Overrides under two layers are those under the two laid over each other. -/
theorem Overrides.apply_merge (o : Overrides) (a b : CapabilityConfig) :
    o.apply (a.merge b) = (o.apply a).apply b := by
  have policy : (b.unknown.or a.unknown).getD o.policy =
      b.unknown.getD (a.unknown.getD o.policy) := by
    cases b.unknown <;> rfl
  simp only [apply, CapabilityConfig.merge, Dictionary.merge_assoc, policy]

/-- Overrides under any number of layers are those under what the layers come to. -/
theorem Overrides.apply_foldl_merge (o : Overrides) (layers : List CapabilityConfig)
    (base : CapabilityConfig) :
    o.apply (layers.foldl CapabilityConfig.merge base) =
      layers.foldl Overrides.apply (o.apply base) := by
  induction layers generalizing base with
  | nil => rfl
  | cons top rest ih => rw [List.foldl_cons, List.foldl_cons, ih, apply_merge]

/-- Layers of configuration go together as one would wish. Laying one over another can be
bracketed in any way, and the empty layer changes nothing, for the toolchain and for capabilities.
So any number of layers comes to what was said last in each part. Laid over the overrides of an
oracle, layers that were taken together first do what they do one by one, and what the oracle
remembers is left alone. -/
theorem layers_compose :
    (∀ a b c : ToolchainSettings, (a.merge b).merge c = a.merge (b.merge c)) ∧
    (∀ a : ToolchainSettings, ToolchainSettings.merge {} a = a ∧ a.merge {} = a) ∧
    (∀ a b c : CapabilityConfig, (a.merge b).merge c = a.merge (b.merge c)) ∧
    (∀ a : CapabilityConfig, CapabilityConfig.merge {} a = a ∧ a.merge {} = a) ∧
    (∀ layers : List ToolchainSettings,
      ToolchainSettings.LastOf layers (layers.foldl ToolchainSettings.merge {})) ∧
    (∀ layers : List CapabilityConfig,
      CapabilityConfig.LastOf layers (layers.foldl CapabilityConfig.merge {})) ∧
    (∀ (oracle : Oracle) (a b : CapabilityConfig),
      let together := oracle.mapOverrides (·.apply (a.merge b))
      let stepwise := (oracle.mapOverrides (·.apply a)).mapOverrides (·.apply b)
      together.overrides = stepwise.overrides ∧
        together.cache = oracle.cache ∧ stepwise.cache = oracle.cache) ∧
    ∀ (overrides : Overrides) (layers : List CapabilityConfig),
      overrides.apply (layers.foldl CapabilityConfig.merge {}) =
        layers.foldl Overrides.apply overrides :=
  ⟨ToolchainSettings.merge_assoc,
    fun a => ⟨ToolchainSettings.empty_merge a, ToolchainSettings.merge_empty a⟩,
    CapabilityConfig.merge_assoc,
    fun a => ⟨CapabilityConfig.empty_merge a, CapabilityConfig.merge_empty a⟩,
    ToolchainSettings.lastOf_foldl, CapabilityConfig.lastOf_foldl,
    fun oracle a b => ⟨oracle.overrides.apply_merge a b, rfl, rfl⟩,
    fun overrides layers => overrides.apply_foldl_merge layers {}⟩

end NativeLayout
