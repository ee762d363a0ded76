import Dimming.Highlight
import Dimming.Rules.Registry

/-!
# The overlay

Enabling the overlay on a host puts its live rules and features aside, once, and puts the overlay's
rules behind the saved rules and its feature on top of the saved features. Disabling it puts back what
was saved and forgets it. Enabling twice starts from the saved values again, so the overlay is never
applied to itself. A host that cannot take an overlay is left as it is.
-/

set_option autoImplicit false

namespace Dimming

/-- The rules and features that were live before the overlay. -/
structure Snapshot where
  rules : Shared RuleSet
  features : Shared FeatureList

/-- What a host keeps for the overlay: whether it is meant to be on, and a slot for each of the values
that were put aside. -/
structure OverlayRecord where
  enabled : Bool
  savedRules : Option (Shared RuleSet)
  savedFeatures : Option (Shared FeatureList)

namespace OverlayRecord

/-- The record of a host that no overlay has touched. -/
def clear : OverlayRecord := ⟨false, none, none⟩

instance : Inhabited OverlayRecord := ⟨clear⟩

/-- Both slots are full: the overlay is applied. -/
def hasSnapshot (record : OverlayRecord) : Bool :=
  record.savedRules.isSome && record.savedFeatures.isSome

/-- Both slots are empty. -/
def isClear (record : OverlayRecord) : Bool :=
  record.savedRules.isNone && record.savedFeatures.isNone

/-- What was put aside, if both slots are full. -/
def saved (record : OverlayRecord) : Option Snapshot :=
  match record.savedRules, record.savedFeatures with
  | some rules, some features => some ⟨rules, features⟩
  | _, _ => none

/-- Puts values aside unless both slots are full already; a record of which only one slot is full is
written anew. Gives what the record holds afterwards. -/
def putAside (record : OverlayRecord) (rules : Shared RuleSet) (features : Shared FeatureList) :
    Snapshot × OverlayRecord :=
  match record.saved with
  | some saved => (saved, record)
  | none =>
    (⟨rules, features⟩, { record with savedRules := some rules, savedFeatures := some features })

/-- Empties both slots and gives what was put aside, if both were full. -/
def takeBack (record : OverlayRecord) : Option Snapshot × OverlayRecord :=
  (record.saved, { record with savedRules := none, savedFeatures := none })

end OverlayRecord

/-- What the overlay needs of the thing that it acts on. The live rules and features may be hidden. -/
class Host (H : Type) where
  hasHighlight : H → Bool
  parserCount : H → Nat
  language : H → Option Language
  rules : H → Option (Shared RuleSet)
  setRules : Shared RuleSet → H → H
  features : H → Option (Shared FeatureList)
  setFeatures : Shared FeatureList → H → H
  recompute : H → H
  requestRepaint : H → H
  overlay : H → OverlayRecord
  setOverlay : OverlayRecord → H → H

/-- Applies the overlays of a registry under one feature. -/
structure Controller where
  registry : Registry
  feature : Feature

namespace Controller

variable {H : Type} [Host H]

/-- The overlay rules for a host: it has highlighting, a parser and a registered language. -/
def available (controller : Controller) (host : H) : Option (Shared RuleSet) :=
  if Host.hasHighlight host && Host.parserCount host != 0 then
    (Host.language host).bind controller.registry.lookup
  else none

/-- Puts the live values of a host aside, unless it holds saved ones, and puts the overlay on top of what
is saved. The new rules and the new feature list get identities of their own. -/
def apply (controller : Controller) (supply : Supply) (overlay rules : Shared RuleSet)
    (features : Shared FeatureList) (host : H) : H × Supply :=
  let (saved, record) := (Host.overlay host).putAside rules features
  let (merged, supply) := supply.share (saved.rules.value.concat overlay.value)
  let (raised, supply) := supply.share (saved.features.value.withTopPriority controller.feature)
  let host := Host.setFeatures raised (Host.setRules merged (Host.setOverlay record host))
  (Host.requestRepaint (Host.recompute host), supply)

/-- Turns the overlay on and tells whether the host could take it; otherwise nothing changes. -/
def enable (controller : Controller) (supply : Supply) (host : H) : Bool × H × Supply :=
  match controller.available host, Host.rules host, Host.features host with
  | some overlay, some rules, some features =>
    (true, controller.apply supply overlay rules features host)
  | _, _, _ => (false, host, supply)

/-- Empties the slots of a host and puts back what was saved, if anything was. -/
def restore (host : H) : Bool × H :=
  let (saved, record) := (Host.overlay host).takeBack
  let host := Host.setOverlay record host
  match saved with
  | none => (false, host)
  | some saved => (true, Host.setFeatures saved.features (Host.setRules saved.rules host))

/-- Turns the overlay off. A host with highlighting is repainted in any case. -/
def disable (host : H) : Bool × H :=
  let (restored, host) := restore host
  if Host.hasHighlight host then (restored, Host.requestRepaint (Host.recompute host))
  else (restored, host)

end Controller

/-- The on/off switch of the overlay. -/
structure Switch where
  controller : Controller
  lighter : String

namespace Switch

variable {H : Type} [Host H]

/-- The switch is on for a host. -/
def isOn (host : H) : Bool := (Host.overlay host).enabled

/-- Turns the switch on or off. It stays where it is put even when the host takes no overlay. -/
def set (switch : Switch) (supply : Supply) (on : Bool) (host : H) : H × Supply :=
  let host := Host.setOverlay { Host.overlay host with enabled := on } host
  if on then (switch.controller.enable supply host).2
  else ((Controller.disable host).2, supply)

/-- Turns the switch over and tells where it is now. -/
def toggle (switch : Switch) (supply : Supply) (host : H) : Bool × H × Supply :=
  let on := !isOn host
  (on, switch.set supply on host)

/-- What the status line shows. -/
def statusLabel (switch : Switch) (host : H) : Option String :=
  if isOn host then some switch.lighter else none

end Switch

end Dimming
