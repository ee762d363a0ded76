import Dimming.Proofs.Overlay.Lawful

/-!
# The footing of a host

A host may hide its live rules and its live features. What putting the overlay on or taking it off comes
to is told by the footing of the host alone: what it supports and lets be seen, what is live, hidden or
not, and what was put aside. On every lawful host both do what they do on the footing.
-/

set_option autoImplicit false

namespace Dimming

/-- What a host supports, and what it lets be seen. -/
structure Support where
  parserCount : Nat
  language : Option Language
  showsRules : Bool
  showsFeatures : Bool

/-- All of a host that putting the overlay on or taking it off depends on. -/
structure Footing where
  support : Support
  /-- The live values, hidden or not; none without highlighting. -/
  live : Option Snapshot
  overlay : OverlayRecord

/-- A host that may hide its live values. -/
class VeiledHost (H : Type) [Host H] where
  showsRules : H → Bool
  showsFeatures : H → Bool
  live : H → Option Snapshot

namespace VeiledHost

variable {H : Type} [Host H] [VeiledHost H]

/-- What a host supports. -/
def support (host : H) : Support :=
  ⟨Host.parserCount host, Host.language host, showsRules host, showsFeatures host⟩

/-- The footing of a host. -/
def footing (host : H) : Footing := ⟨support host, live host, Host.overlay host⟩

end VeiledHost

open VeiledHost

/-- A host that answers with what is live, unless it hides it, and whose setters change their own part
and nothing else. -/
class LawfulVeil (H : Type) [Host H] [VeiledHost H] : Prop where
  hasHighlight_eq : ∀ host : H, Host.hasHighlight host = (live host).isSome
  rules_eq : ∀ host : H,
    Host.rules host = if showsRules host then (live host).map (·.rules) else none
  features_eq : ∀ host : H,
    Host.features host = if showsFeatures host then (live host).map (·.features) else none
  /-- New rules are live from then on, if the host has highlighting. -/
  footing_setRules : ∀ (host : H) (rules : Shared RuleSet),
    footing (Host.setRules rules host) =
      { footing host with live := (live host).map ({ · with rules }) }
  /-- New features are live from then on, if the host has highlighting. -/
  footing_setFeatures : ∀ (host : H) (features : Shared FeatureList),
    footing (Host.setFeatures features host) =
      { footing host with live := (live host).map ({ · with features }) }
  footing_setOverlay : ∀ (host : H) (record : OverlayRecord),
    footing (Host.setOverlay record host) = { footing host with overlay := record }
  footing_recompute : ∀ host : H, footing (Host.recompute host) = footing host
  footing_requestRepaint : ∀ host : H, footing (Host.requestRepaint host) = footing host

instance : VeiledHost Document where
  showsRules _ := true
  showsFeatures _ := true
  live document := document.highlight.map (fun state => ⟨state.rules, state.features⟩)

instance : LawfulVeil Document where
  hasHighlight_eq document := by
    show document.highlight.isSome = _
    simp [live]
  rules_eq document := by
    show document.highlight.map (·.rules) = _
    simp [live, showsRules, Function.comp_def]
  features_eq document := by
    show document.highlight.map (·.features) = _
    simp [live, showsFeatures, Function.comp_def]
  footing_setRules document rules := by
    cases h : document.highlight <;>
      simp [footing, support, live, showsRules, showsFeatures, Host.parserCount, Host.language,
        Host.overlay, Host.setRules, Document.mapHighlight, h]
  footing_setFeatures document features := by
    cases h : document.highlight <;>
      simp [footing, support, live, showsRules, showsFeatures, Host.parserCount, Host.language,
        Host.overlay, Host.setFeatures, Document.mapHighlight, h]
  footing_setOverlay _ _ := rfl
  footing_recompute document := by
    cases h : document.highlight <;>
      simp [footing, support, live, showsRules, showsFeatures, Host.parserCount, Host.language,
        Host.overlay, Host.recompute, Document.mapHighlight, Highlight.recompute, h]
  footing_requestRepaint _ := rfl

namespace OverlayRecord

/-- Both slots are full or both are empty. -/
def IsWhole (record : OverlayRecord) : Prop :=
  record.hasSnapshot = true ∨ record.isClear = true

/-- The record with both slots empty. -/
def emptied (record : OverlayRecord) : OverlayRecord :=
  { record with savedRules := none, savedFeatures := none }

/-- The record with both slots full. -/
def filled (record : OverlayRecord) (saved : Snapshot) : OverlayRecord :=
  { record with savedRules := some saved.rules, savedFeatures := some saved.features }

/-- Two whole records with the same snapshot have the same slots. -/
theorem IsWhole.slots_eq {record other : OverlayRecord} (h : record.IsWhole) (hother : other.IsWhole)
    (hsaved : record.saved = other.saved) :
    record.savedRules = other.savedRules ∧ record.savedFeatures = other.savedFeatures := by
  obtain ⟨enabled, rules, features⟩ := record
  obtain ⟨enabled', rules', features'⟩ := other
  cases rules <;> cases features <;> cases rules' <;> cases features' <;>
    simp_all [IsWhole, hasSnapshot, isClear, saved]

end OverlayRecord

namespace Footing

/-- The overlay that a controller has for a host and the live values that the host shows; none when the
host cannot take the overlay. -/
def taken (controller : Controller) (footing : Footing) : Option (Shared RuleSet × Snapshot) :=
  match footing.support.language.bind controller.registry.lookup, footing.live with
  | some overlay, some live =>
    if footing.support.parserCount != 0 && footing.support.showsRules && footing.support.showsFeatures
    then some (overlay, live) else none
  | _, _ => none

/-- What is saved once the overlay is on. -/
def basis (footing : Footing) (live : Snapshot) : Snapshot := footing.overlay.saved.getD live

/-- The live values with the overlay on; both are new. -/
def dimmed (controller : Controller) (supply : Supply) (overlay : Shared RuleSet) (saved : Snapshot) :
    Snapshot where
  rules := ⟨supply.next, saved.rules.value.concat overlay.value⟩
  features := ⟨supply.next + 1, saved.features.value.withTopPriority controller.feature⟩

/-- Puts the overlay on. -/
def putOn (controller : Controller) (supply : Supply) (footing : Footing) :
    Bool × Footing × Supply :=
  match footing.taken controller with
  | none => (false, footing, supply)
  | some (overlay, live) =>
    let saved := footing.basis live
    (true,
      { footing with
        live := some (dimmed controller supply overlay saved)
        overlay := footing.overlay.filled saved },
      ⟨supply.next + 2⟩)

/-- Takes the overlay off. -/
def takeOff (footing : Footing) : Bool × Footing :=
  (footing.overlay.saved.isSome,
    { footing with
      live := footing.live.map (footing.overlay.saved.getD ·)
      overlay := footing.overlay.emptied })

/-- Two footings differ at most in the flag and in slots of which only one is full. -/
structure Alike (footing other : Footing) : Prop where
  support : footing.support = other.support
  live : footing.live = other.live
  saved : footing.overlay.saved = other.overlay.saved

section Alike

variable {footing other : Footing}

/-- A footing is like itself. -/
theorem Alike.refl (footing : Footing) : footing.Alike footing := ⟨rfl, rfl, rfl⟩

/-- Likeness of footings is passed on. -/
theorem Alike.trans {third : Footing} (h : footing.Alike other) (hother : other.Alike third) :
    footing.Alike third :=
  ⟨h.support.trans hother.support, h.live.trans hother.live, h.saved.trans hother.saved⟩

/-- On like footings the same is taken up. -/
theorem Alike.taken (h : footing.Alike other) (controller : Controller) :
    footing.taken controller = other.taken controller := by
  unfold Footing.taken
  rw [h.support, h.live]

/-- Putting the overlay on has the same answer on like footings, and leaves them alike. -/
theorem Alike.putOn (h : footing.Alike other) (controller : Controller) (supply : Supply) :
    (footing.putOn controller supply).1 = (other.putOn controller supply).1 ∧
      (footing.putOn controller supply).2.1.Alike (other.putOn controller supply).2.1 ∧
      (footing.putOn controller supply).2.2 = (other.putOn controller supply).2.2 := by
  unfold Footing.putOn basis
  rw [h.taken controller]
  cases other.taken controller with
  | none => exact ⟨rfl, h, rfl⟩
  | some taken =>
    dsimp only
    rw [h.saved]
    exact ⟨rfl, ⟨h.support, rfl, rfl⟩, rfl⟩

/-- Taking the overlay off has the same answer on like footings, and leaves them alike. -/
theorem Alike.takeOff (h : footing.Alike other) :
    footing.takeOff.1 = other.takeOff.1 ∧ footing.takeOff.2.Alike other.takeOff.2 := by
  refine ⟨congrArg Option.isSome h.saved, h.support, ?_, rfl⟩
  unfold Footing.takeOff
  rw [h.saved, h.live]

/-- Putting the overlay on in vain changes nothing at all. -/
theorem putOn_of_failed {controller : Controller} {supply : Supply}
    (h : (footing.putOn controller supply).1 = false) :
    (footing.putOn controller supply).2 = (footing, supply) := by
  unfold Footing.putOn at h ⊢
  cases htaken : footing.taken controller with
  | none => rfl
  | some taken =>
    rw [htaken] at h
    cases h

/-- Taking the overlay off in vain empties at most one slot. -/
theorem takeOff_of_failed (h : footing.takeOff.1 = false) : footing.takeOff.2.Alike footing := by
  have hsaved : footing.overlay.saved = none :=
    Option.isNone_iff_eq_none.mp (Option.isSome_eq_false_iff.mp h)
  refine ⟨rfl, ?_, hsaved.symm⟩
  unfold Footing.takeOff
  rw [hsaved]
  exact Option.map_id'

/-- The record stays whole when the overlay is put on. -/
theorem isWhole_putOn (h : footing.overlay.IsWhole) (controller : Controller) (supply : Supply) :
    (footing.putOn controller supply).2.1.overlay.IsWhole := by
  unfold Footing.putOn
  cases footing.taken controller with
  | none => exact h
  | some taken => exact Or.inl rfl

/-- The record is whole when the overlay was taken off. -/
theorem isWhole_takeOff (footing : Footing) : footing.takeOff.2.overlay.IsWhole := Or.inr rfl

end Alike

end Footing

namespace Controller

section Answers

variable {H : Type} [Host H] (controller : Controller) (supply : Supply) (host : H)

/-- An overlay is there for a host that highlights, has a parser, and has a language with rules in the
registry. -/
theorem available_eq_some_iff {overlay : Shared RuleSet} :
    controller.available host = some overlay ↔
      Host.hasHighlight host = true ∧ Host.parserCount host ≠ 0 ∧
        ∃ language, Host.language host = some language ∧
          controller.registry.lookup language = some overlay := by
  unfold available
  split
  · next h =>
    obtain ⟨hlit, hparsers⟩ := Bool.and_eq_true_iff.mp h
    simp [hlit, bne_iff_ne.mp hparsers, Option.bind_eq_some_iff]
  · next h =>
    simp only [Bool.and_eq_true, bne_iff_ne, not_and] at h
    simp only [reduceCtorEq, false_iff, not_and]
    exact fun hlit hparsers => absurd hparsers (h hlit)

/-- A host takes the overlay when nothing of what it takes is missing. -/
theorem enable_eq_true_iff :
    (controller.enable supply host).1 = true ↔
      Host.hasHighlight host = true ∧ Host.parserCount host ≠ 0 ∧
        (∃ language overlay, Host.language host = some language ∧
          controller.registry.lookup language = some overlay) ∧
        (Host.rules host).isSome = true ∧ (Host.features host).isSome = true := by
  constructor
  · intro h
    rcases controller.enable_cases supply host with
      ⟨overlay, rules, features, havailable, hrules, hfeatures, -⟩ | henable
    · obtain ⟨hlit, hparsers, language, hlanguage, hlookup⟩ :=
        (controller.available_eq_some_iff host).mp havailable
      exact ⟨hlit, hparsers, ⟨language, overlay, hlanguage, hlookup⟩,
        Option.isSome_of_eq_some hrules, Option.isSome_of_eq_some hfeatures⟩
    · rw [henable] at h
      cases h
  · rintro ⟨hlit, hparsers, ⟨language, overlay, hlanguage, hlookup⟩, hrules, hfeatures⟩
    obtain ⟨rules, hrules⟩ := Option.isSome_iff_exists.mp hrules
    obtain ⟨features, hfeatures⟩ := Option.isSome_iff_exists.mp hfeatures
    have havailable : controller.available host = some overlay :=
      (controller.available_eq_some_iff host).mpr ⟨hlit, hparsers, language, hlanguage, hlookup⟩
    rw [enable, havailable, hrules, hfeatures]

/-- A host that does not take the overlay is the very same as before. -/
theorem enable_of_refused (h : (controller.enable supply host).1 = false) :
    (controller.enable supply host).2 = (host, supply) := by
  rcases controller.enable_cases supply host with ⟨_, _, _, -, -, -, henable⟩ | henable
  · rw [henable] at h
    cases h
  · rw [henable]

end Answers

end Controller

section Hosts

variable {H : Type} [Host H] [VeiledHost H] [LawfulVeil H]

/-- What is stored one after the other is all there in the end, if the host has highlighting. -/
theorem footing_stored (record : OverlayRecord) (rules : Shared RuleSet)
    (features : Shared FeatureList) (host : H) :
    footing (Host.setFeatures features (Host.setRules rules (Host.setOverlay record host))) =
      { footing host with live := (live host).map (fun _ => ⟨rules, features⟩), overlay := record } := by
  let told := Host.setOverlay record host
  let ruled := Host.setRules rules told
  have htold : footing told = { footing host with overlay := record } :=
    LawfulVeil.footing_setOverlay host record
  have hlive : live told = live host := congrArg Footing.live htold
  have hruled : footing ruled =
      { footing host with live := (live host).map ({ · with rules }), overlay := record } := by
    rw [LawfulVeil.footing_setRules told rules, htold, hlive]
  have hliveRuled : live ruled = (live host).map ({ · with rules }) := congrArg Footing.live hruled
  rw [LawfulVeil.footing_setFeatures ruled features, hruled, hliveRuled, Option.map_map]
  rfl

namespace Controller

/-- Whether a host can take the overlay is told by its footing. -/
theorem available_eq (controller : Controller) (host : H) :
    controller.available host =
      if (live host).isSome && Host.parserCount host != 0 then
        (Host.language host).bind controller.registry.lookup else none := by
  rw [available, LawfulVeil.hasHighlight_eq]

/-- Enabling applies what is taken up. -/
theorem enable_of_taken (controller : Controller) (supply : Supply) (host : H)
    {overlay : Shared RuleSet} {seen : Snapshot}
    (h : (footing host).taken controller = some (overlay, seen)) :
    live host = some seen ∧
      controller.enable supply host =
        (true, controller.apply supply overlay seen.rules seen.features host) := by
  unfold Footing.taken at h
  split at h
  · next found shown hlookup hlive =>
    replace hlookup : (Host.language host).bind controller.registry.lookup = some found := hlookup
    replace hlive : live host = some shown := hlive
    split at h
    · next hsupport =>
      obtain ⟨rfl, rfl⟩ := Prod.mk.inj (Option.some.inj h)
      rw [Bool.and_eq_true, Bool.and_eq_true] at hsupport
      obtain ⟨⟨hparsers, hrules⟩, hfeatures⟩ := hsupport
      replace hparsers : (Host.parserCount host != 0) = true := hparsers
      replace hrules : showsRules host = true := hrules
      replace hfeatures : showsFeatures host = true := hfeatures
      refine ⟨hlive, ?_⟩
      unfold enable
      rw [available_eq, LawfulVeil.rules_eq, LawfulVeil.features_eq, hlive, hparsers, hrules, hfeatures,
        hlookup]
      rfl
    · cases h
  · cases h

/-- Where nothing is taken up enabling does nothing. -/
theorem enable_of_not_taken (controller : Controller) (supply : Supply) (host : H)
    (h : (footing host).taken controller = none) :
    controller.enable supply host = (false, host, supply) := by
  rcases enable_cases controller supply host with
    ⟨overlay, rules, features, havailable, hrules, hfeatures, -⟩ | henable
  · exfalso
    rw [available_eq] at havailable
    rw [LawfulVeil.rules_eq] at hrules
    rw [LawfulVeil.features_eq] at hfeatures
    split at havailable
    · next hlit =>
      obtain ⟨hlive, hparsers⟩ := Bool.and_eq_true_iff.mp hlit
      obtain ⟨seen, hseen⟩ := Option.isSome_iff_exists.mp hlive
      split at hrules
      · next hshows =>
        split at hfeatures
        · next hshown =>
          have htaken : (footing host).taken controller = some (overlay, seen) := by
            unfold Footing.taken footing support
            simp only [havailable, hseen, hparsers, hshows, hshown, Bool.and_true, if_true]
          rw [htaken] at h
          cases h
        · cases hfeatures
      · cases hrules
    · cases havailable
  · exact henable

/-- Putting the overlay on a host is putting it on its footing. -/
theorem footing_enable (controller : Controller) (supply : Supply) (host : H) :
    ((controller.enable supply host).1, footing (controller.enable supply host).2.1,
        (controller.enable supply host).2.2) =
      (footing host).putOn controller supply := by
  unfold Footing.putOn
  cases htaken : (footing host).taken controller with
  | none => rw [enable_of_not_taken controller supply host htaken]
  | some taken =>
    obtain ⟨overlay, seen⟩ := taken
    obtain ⟨hlive, henable⟩ := enable_of_taken controller supply host htaken
    rw [henable]
    simp only [apply, OverlayRecord.putAside_fst, OverlayRecord.putAside_snd, Supply.share]
    rw [LawfulVeil.footing_requestRepaint, LawfulVeil.footing_recompute, footing_stored, hlive]
    rfl

/-- Taking the overlay off a host is taking it off its footing. -/
theorem footing_disable (host : H) :
    ((disable host).1, footing (disable host).2) = (footing host).takeOff := by
  have hrestore : ((restore host).1, footing (restore host).2) = (footing host).takeOff := by
    unfold restore OverlayRecord.takeBack Footing.takeOff
    have hsaved : (footing host).overlay.saved = (Host.overlay host).saved := rfl
    rw [hsaved]
    cases (Host.overlay host).saved with
    | none =>
      simp only [LawfulVeil.footing_setOverlay, Option.isSome_none, Option.getD_none]
      rw [Option.map_id']
      rfl
    | some saved =>
      simp only [footing_stored, Option.isSome_some, Option.getD_some]
      rfl
  rw [← hrestore]
  unfold disable
  cases restore host with
  | mk restored after =>
    dsimp only
    split
    · rw [LawfulVeil.footing_requestRepaint, LawfulVeil.footing_recompute]
    · rfl

end Controller

end Hosts

end Dimming
