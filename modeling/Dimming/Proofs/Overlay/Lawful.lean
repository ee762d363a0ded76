import Dimming.Document

/-!
# Hosts that keep what they are given

A lawful host answers with the values it was given last, and setting one of them leaves the others
alone. What can be asked of a host is gathered in one view, so that every setter has a single law: it
changes its own part of the view. From these laws follows what enabling and disabling the overlay do to
the view of any lawful host. Documents are lawful.
-/

set_option autoImplicit false

namespace Dimming

/-- A host of which the level and the enabled features can be watched. -/
class WatchedHost (H : Type) [Host H] where
  level : H → Nat
  effective : H → List Feature

/-- All that can be asked of a host, apart from the enabled features. -/
structure HostView where
  hasHighlight : Bool
  parserCount : Nat
  language : Option Language
  rules : Option (Shared RuleSet)
  features : Option (Shared FeatureList)
  overlay : OverlayRecord
  level : Nat

namespace WatchedHost

variable {H : Type} [Host H] [WatchedHost H]

/-- What can be asked of a host. -/
def view (host : H) : HostView where
  hasHighlight := Host.hasHighlight host
  parserCount := Host.parserCount host
  language := Host.language host
  rules := Host.rules host
  features := Host.features host
  overlay := Host.overlay host
  level := level host

end WatchedHost

open WatchedHost

/-- A host whose getters give what its setters stored last. -/
class LawfulHost (H : Type) [Host H] [WatchedHost H] : Prop where
  /-- New rules are the live rules from then on. -/
  view_setRules : ∀ (host : H) (rules : Shared RuleSet), Host.hasHighlight host = true →
    view (Host.setRules rules host) = { view host with rules := some rules }
  /-- New features are the live features from then on. -/
  view_setFeatures : ∀ (host : H) (features : Shared FeatureList), Host.hasHighlight host = true →
    view (Host.setFeatures features host) = { view host with features := some features }
  /-- A new record is the overlay's record from then on. -/
  view_setOverlay : ∀ (host : H) (record : OverlayRecord),
    view (Host.setOverlay record host) = { view host with overlay := record }
  /-- Computing the enabled features again changes nothing else. -/
  view_recompute : ∀ host : H, view (Host.recompute host) = view host
  /-- Asking for a repaint changes nothing. -/
  view_requestRepaint : ∀ host : H, view (Host.requestRepaint host) = view host
  /-- The enabled features are those of the live features and the level, once they are computed. -/
  effective_recompute : ∀ (host : H) (features : Shared FeatureList),
    Host.hasHighlight host = true → Host.features host = some features →
      effective (Host.recompute host) = features.value.effective (level host)
  /-- Asking for a repaint enables nothing. -/
  effective_requestRepaint : ∀ host : H, effective (Host.requestRepaint host) = effective host

namespace OverlayRecord

/-- A snapshot is there exactly when both slots are full. -/
theorem hasSnapshot_eq_isSome_saved (record : OverlayRecord) :
    record.hasSnapshot = record.saved.isSome := by
  unfold hasSnapshot saved
  cases record.savedRules <;> cases record.savedFeatures <;> rfl

/-- What a snapshot consists of is what the two slots hold. -/
theorem saved_eq_some_iff (record : OverlayRecord) (snapshot : Snapshot) :
    record.saved = some snapshot ↔
      record.savedRules = some snapshot.rules ∧ record.savedFeatures = some snapshot.features := by
  obtain ⟨rules, features⟩ := snapshot
  unfold saved
  cases record.savedRules <;> cases record.savedFeatures <;> simp

/-- What is put aside is what was put aside before, or else the given values. -/
theorem putAside_fst (record : OverlayRecord) (rules : Shared RuleSet)
    (features : Shared FeatureList) :
    (record.putAside rules features).1 = record.saved.getD ⟨rules, features⟩ := by
  unfold putAside
  cases record.saved <;> rfl

/-- Both slots are full once something was put aside, and the flag stays. -/
theorem putAside_snd (record : OverlayRecord) (rules : Shared RuleSet)
    (features : Shared FeatureList) :
    (record.putAside rules features).2 =
      { record with
        savedRules := some (record.saved.getD ⟨rules, features⟩).rules
        savedFeatures := some (record.saved.getD ⟨rules, features⟩).features } := by
  unfold putAside
  cases h : record.saved with
  | none => rfl
  | some snapshot =>
    obtain ⟨hrules, hfeatures⟩ := (record.saved_eq_some_iff snapshot).mp h
    simp [← hrules, ← hfeatures]

end OverlayRecord

namespace Controller

section Answers

variable {H : Type} [Host H] (controller : Controller) (supply : Supply) (host : H)

/-- A host takes the overlay when it has highlighting, a parser, a registered language and live values
that can be seen; then the overlay is applied. Any other host is left alone. -/
theorem enable_cases :
    (∃ overlay rules features, controller.available host = some overlay ∧
      Host.rules host = some rules ∧ Host.features host = some features ∧
      controller.enable supply host =
        (true, controller.apply supply overlay rules features host)) ∨
    controller.enable supply host = (false, host, supply) := by
  unfold enable
  split
  · next overlay rules features hoverlay hrules hfeatures =>
    exact Or.inl ⟨overlay, rules, features, hoverlay, hrules, hfeatures, rfl⟩
  · exact Or.inr rfl

/-- The overlay of a host that can take one is the registered overlay of its language. -/
theorem available_eq_some {overlay : Shared RuleSet} (h : controller.available host = some overlay) :
    Host.hasHighlight host = true ∧
      (Host.language host).bind controller.registry.lookup = some overlay := by
  unfold available at h
  split at h
  · next hhost =>
    rw [Bool.and_eq_true] at hhost
    exact ⟨hhost.1, h⟩
  · cases h

end Answers

variable {H : Type} [Host H] [WatchedHost H] [LawfulHost H]

/-- A record, rules and features that are stored one after the other are all there in the end. -/
theorem view_stored (record : OverlayRecord) (rules : Shared RuleSet)
    (features : Shared FeatureList) (host : H) (h : Host.hasHighlight host = true) :
    view (Host.setFeatures features (Host.setRules rules (Host.setOverlay record host))) =
      { view host with rules := some rules, features := some features, overlay := record } := by
  let told := Host.setOverlay record host
  let ruled := Host.setRules rules told
  have htold : view told = { view host with overlay := record } :=
    LawfulHost.view_setOverlay host record
  have hlit : Host.hasHighlight told = true := (congrArg HostView.hasHighlight htold).trans h
  have hruled : view ruled = { view host with rules := some rules, overlay := record } := by
    rw [LawfulHost.view_setRules told rules hlit, htold]
  have hstill : Host.hasHighlight ruled = true := (congrArg HostView.hasHighlight hruled).trans h
  rw [LawfulHost.view_setFeatures ruled features hstill, hruled]

/-- Applying the overlay makes the saved rules with the overlay behind them live, and the saved features
with the overlay's feature on top; the saved values are those that were saved before, or else the live
ones. -/
theorem apply_view (controller : Controller) (supply : Supply) (overlay rules : Shared RuleSet)
    (features : Shared FeatureList) (host : H) (h : Host.hasHighlight host = true) :
    let saved := (Host.overlay host).saved.getD ⟨rules, features⟩
    let after := (controller.apply supply overlay rules features host).1
    ∃ (merged : Shared RuleSet) (raised : Shared FeatureList),
      merged.value = saved.rules.value.concat overlay.value ∧
      raised.value = saved.features.value.withTopPriority controller.feature ∧
      view after =
        { view host with
          rules := some merged
          features := some raised
          overlay := { Host.overlay host with
            savedRules := some saved.rules, savedFeatures := some saved.features } } ∧
      effective after = raised.value.effective (level host) := by
  intro saved after
  let merged : Shared RuleSet := ⟨supply.next, saved.rules.value.concat overlay.value⟩
  let raised : Shared FeatureList :=
    ⟨supply.next + 1, saved.features.value.withTopPriority controller.feature⟩
  let record : OverlayRecord := { Host.overlay host with
    savedRules := some saved.rules, savedFeatures := some saved.features }
  let stored := Host.setFeatures raised (Host.setRules merged (Host.setOverlay record host))
  have hafter : after = Host.requestRepaint (Host.recompute stored) := by
    simp only [after, apply, OverlayRecord.putAside_fst, OverlayRecord.putAside_snd, Supply.share]
    rfl
  have hview : view stored =
      { view host with rules := some merged, features := some raised, overlay := record } :=
    view_stored record merged raised host h
  refine ⟨merged, raised, rfl, rfl, ?_, ?_⟩
  · rw [hafter, LawfulHost.view_requestRepaint, LawfulHost.view_recompute, hview]
  · rw [hafter, LawfulHost.effective_requestRepaint,
      LawfulHost.effective_recompute stored raised
        ((congrArg HostView.hasHighlight hview).trans h) (congrArg HostView.features hview)]
    exact congrArg raised.value.effective (congrArg HostView.level hview)

/-- What enabling does to a host that takes the overlay. -/
theorem enable_view (controller : Controller) (supply : Supply) (host : H)
    (h : (controller.enable supply host).1 = true) :
    ∃ (overlay merged : Shared RuleSet) (raised : Shared FeatureList) (live : Snapshot),
      Host.hasHighlight host = true ∧
      (Host.language host).bind controller.registry.lookup = some overlay ∧
      Host.rules host = some live.rules ∧ Host.features host = some live.features ∧
      let saved := (Host.overlay host).saved.getD live
      let after := (controller.enable supply host).2.1
      merged.value = saved.rules.value.concat overlay.value ∧
      raised.value = saved.features.value.withTopPriority controller.feature ∧
      view after =
        { view host with
          rules := some merged
          features := some raised
          overlay := { Host.overlay host with
            savedRules := some saved.rules, savedFeatures := some saved.features } } ∧
      effective after = raised.value.effective (level host) := by
  rcases enable_cases controller supply host with
    ⟨overlay, rules, features, hoverlay, hrules, hfeatures, henable⟩ | henable
  · obtain ⟨hhost, hlookup⟩ := available_eq_some controller host hoverlay
    obtain ⟨merged, raised, hmerged, hraised, hview, heffective⟩ :=
      apply_view controller supply overlay rules features host hhost
    refine ⟨overlay, merged, raised, ⟨rules, features⟩, hhost, hlookup, hrules, hfeatures, ?_⟩
    rw [henable]
    exact ⟨hmerged, hraised, hview, heffective⟩
  · rw [henable] at h
    cases h

/-- Disabling a host on which nothing was put aside empties the slots and changes nothing else. -/
theorem disable_view_of_none (host : H) (h : (Host.overlay host).saved = none) :
    (disable host).1 = false ∧
      view (disable host).2 =
        { view host with
          overlay := { Host.overlay host with savedRules := none, savedFeatures := none } } := by
  have hrestore : restore host =
      (false, Host.setOverlay
        { Host.overlay host with savedRules := none, savedFeatures := none } host) := by
    simp [restore, OverlayRecord.takeBack, h]
  unfold disable
  rw [hrestore]
  dsimp only
  split
  · refine ⟨rfl, ?_⟩
    rw [LawfulHost.view_requestRepaint, LawfulHost.view_recompute, LawfulHost.view_setOverlay]
  · exact ⟨rfl, LawfulHost.view_setOverlay _ _⟩

/-- Disabling a host on which values were put aside makes them live again and empties the slots. -/
theorem disable_view_of_some (host : H) (saved : Snapshot)
    (h : (Host.overlay host).saved = some saved) (hhost : Host.hasHighlight host = true) :
    (disable host).1 = true ∧
      view (disable host).2 =
        { view host with
          rules := some saved.rules
          features := some saved.features
          overlay := { Host.overlay host with savedRules := none, savedFeatures := none } } := by
  let record : OverlayRecord := { Host.overlay host with savedRules := none, savedFeatures := none }
  let stored :=
    Host.setFeatures saved.features (Host.setRules saved.rules (Host.setOverlay record host))
  have hrestore : restore host = (true, stored) := by
    simp [restore, OverlayRecord.takeBack, h, stored, record]
  have hview : view stored =
      { view host with
        rules := some saved.rules, features := some saved.features, overlay := record } :=
    view_stored record saved.rules saved.features host hhost
  have hlit : Host.hasHighlight stored = true :=
    (congrArg HostView.hasHighlight hview).trans hhost
  unfold disable
  rw [hrestore]
  dsimp only
  rw [if_pos hlit]
  refine ⟨rfl, ?_⟩
  rw [LawfulHost.view_requestRepaint, LawfulHost.view_recompute, hview]

end Controller

namespace Document

instance : WatchedHost Document where
  level document := (document.highlight.map (·.level)).getD 0
  effective document := (document.highlight.map (·.effective)).getD []

instance : LawfulHost Document where
  view_setRules document rules h := by
    obtain ⟨state, hstate⟩ := Option.isSome_iff_exists.mp h
    simp [view, WatchedHost.level, Host.setRules, Host.hasHighlight, Host.parserCount, Host.language,
      Host.rules, Host.features, Host.overlay, mapHighlight, hstate]
  view_setFeatures document features h := by
    obtain ⟨state, hstate⟩ := Option.isSome_iff_exists.mp h
    simp [view, WatchedHost.level, Host.setFeatures, Host.hasHighlight, Host.parserCount,
      Host.language, Host.rules, Host.features, Host.overlay, mapHighlight, hstate]
  view_setOverlay _ _ := rfl
  view_recompute document := by
    simp only [view, WatchedHost.level, Host.recompute, Host.hasHighlight, Host.parserCount,
      Host.language, Host.rules, Host.features, Host.overlay, mapHighlight]
    cases document.highlight <;> rfl
  view_requestRepaint _ := rfl
  effective_recompute document features h hfeatures := by
    obtain ⟨state, hstate⟩ := Option.isSome_iff_exists.mp h
    simp only [Host.features, hstate, Option.map_some, Option.some.injEq] at hfeatures
    simp [WatchedHost.effective, WatchedHost.level, Host.recompute, mapHighlight, hstate,
      Highlight.recompute, hfeatures]
  effective_requestRepaint _ := rfl

end Document

end Dimming
