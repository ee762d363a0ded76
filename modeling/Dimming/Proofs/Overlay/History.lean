import Dimming.Proofs.Overlay.Lawful
import Mathlib.Data.List.DropRight

/-!
# The history of an overlay

Controllers and switches act on one host in any order, and others write to the host in between. What
the host has put aside is told by the past alone: the values that were live when the overlay was put on
for the first time since it was last taken off. From this it follows that the two slots are filled and
emptied together, that putting the overlay on always starts from these values, and that taking it off
brings back the very same ones.
-/

set_option autoImplicit false

namespace Dimming.Proofs.OverlayHistory

open WatchedHost

/-- A write from elsewhere. It may change anything but the presence of highlighting and the overlay's
record. -/
structure ForeignWrite (H : Type) [Host H] where
  write : H → H
  hasHighlight_write : ∀ host, Host.hasHighlight (write host) = Host.hasHighlight host
  overlay_write : ∀ host, Host.overlay (write host) = Host.overlay host

/-- What can happen to a host. -/
inductive Act (H : Type) [Host H] where
  | enable (controller : Controller)
  | disable
  | set (switch : Switch) (on : Bool)
  | toggle (switch : Switch)
  | foreign (change : ForeignWrite H)

/-- What an act comes to. -/
inductive Attempt where
  | putOn (controller : Controller)
  | takeOff
  | neither

/-- What is known of one act: what it came to, the answer that was given, and the values that were live
before it. -/
structure Moment where
  attempt : Attempt
  answer : Bool
  live : Option Snapshot

namespace Moment

/-- The overlay was taken off. -/
def takesOff (moment : Moment) : Bool :=
  match moment.attempt with
  | .takeOff => true
  | _ => false

/-- The values that were live before the overlay was put on, if that was done. -/
def basis (moment : Moment) : Option Snapshot :=
  match moment.attempt with
  | .putOn _ => if moment.answer then moment.live else none
  | _ => none

end Moment

/-- The values that were live when the overlay was put on for the first time since it was last taken
off. -/
def origin (past : List Moment) : Option Snapshot :=
  (past.rtakeWhile (fun moment => !moment.takesOff)).findSome? Moment.basis

/-- Nothing is the origin after the overlay was taken off; otherwise the origin stays, and when there is
none it is the basis of the new moment. -/
theorem origin_concat (past : List Moment) (moment : Moment) :
    origin (past ++ [moment]) =
      if moment.takesOff then none else (origin past).or moment.basis := by
  unfold origin
  rw [List.rtakeWhile_concat]
  cases moment.takesOff with
  | true => rfl
  | false =>
    have hsingle : [moment].findSome? Moment.basis = moment.basis := by
      cases h : moment.basis <;> simp [List.findSome?, h]
    simp only [Bool.not_false, if_true, Bool.false_eq_true, if_false, List.findSome?_append, hsingle]

section Acts

variable {H : Type} [Host H]

/-- The live values of a host, if both can be seen. -/
def liveOf (host : H) : Option Snapshot :=
  match Host.rules host, Host.features host with
  | some rules, some features => some ⟨rules, features⟩
  | _, _ => none

/-- A host with its flag put on or off. -/
def flagged (on : Bool) (host : H) : H :=
  Host.setOverlay { Host.overlay host with enabled := on } host

namespace Act

/-- What an act comes to on a host. -/
def attempt (host : H) : Act H → Attempt
  | .enable controller => .putOn controller
  | .disable => .takeOff
  | .set switch on => if on then .putOn switch.controller else .takeOff
  | .toggle switch => if Switch.isOn host then .takeOff else .putOn switch.controller
  | .foreign _ => .neither

/-- The host as it is when the overlay is put on or taken off: a switch has moved its flag by then. -/
def prepared (host : H) : Act H → H
  | .enable _ => host
  | .disable => host
  | .set _ on => flagged on host
  | .toggle _ => flagged (!Switch.isOn host) host
  | .foreign change => change.write host

/-- The host and the supply after an act. -/
def perform (host : H) (supply : Supply) : Act H → H × Supply
  | .enable controller => (controller.enable supply host).2
  | .disable => ((Controller.disable host).2, supply)
  | .set switch on => switch.set supply on host
  | .toggle switch => (switch.toggle supply host).2
  | .foreign change => (change.write host, supply)

/-- The answer of the controller in an act. -/
def answer (host : H) (supply : Supply) (act : Act H) : Bool :=
  match act.attempt host with
  | .putOn controller => (controller.enable supply (act.prepared host)).1
  | .takeOff => (Controller.disable (act.prepared host)).1
  | .neither => false

/-- An act as it is remembered. -/
def moment (host : H) (supply : Supply) (act : Act H) : Moment :=
  ⟨act.attempt host, act.answer host supply, liveOf host⟩

/-- An act is what it comes to, done to the prepared host. -/
theorem perform_eq (host : H) (supply : Supply) (act : Act H) :
    act.perform host supply =
      match act.attempt host with
      | .putOn controller => (controller.enable supply (act.prepared host)).2
      | .takeOff => ((Controller.disable (act.prepared host)).2, supply)
      | .neither => (act.prepared host, supply) := by
  cases act with
  | enable controller => rfl
  | disable => rfl
  | set switch on => cases on <;> rfl
  | toggle switch =>
    unfold perform attempt prepared Switch.toggle Switch.set
    cases Switch.isOn host <;> rfl
  | foreign change => rfl

/-- Only writes from elsewhere neither put the overlay on nor take it off. -/
theorem eq_foreign_of_neither (host : H) (act : Act H) (h : act.attempt host = .neither) :
    ∃ change, act = .foreign change := by
  cases act with
  | enable controller => cases h
  | disable => cases h
  | set switch on => cases on <;> simp [attempt] at h
  | toggle switch => cases hon : Switch.isOn host <;> simp [attempt, hon] at h
  | foreign change => exact ⟨change, rfl⟩

end Act

/-- A host in the course of a run, with what has happened to it so far, oldest first. -/
structure Stage (H : Type) where
  host : H
  supply : Supply
  past : List Moment

namespace Stage

/-- The stage after an act. -/
def step (stage : Stage H) (act : Act H) : Stage H where
  host := (act.perform stage.host stage.supply).1
  supply := (act.perform stage.host stage.supply).2
  past := stage.past ++ [act.moment stage.host stage.supply]

/-- The stage after some acts. -/
def run (stage : Stage H) (acts : List (Act H)) : Stage H :=
  acts.foldl step stage

/-- What is remembered of an act that comes to nothing leaves the origin as it was. -/
theorem origin_step_neither (stage : Stage H) (act : Act H)
    (h : act.attempt stage.host = .neither) : origin (stage.step act).past = origin stage.past := by
  simp [step, origin_concat, Act.moment, Moment.takesOff, Moment.basis, h]

/-- A refused act leaves the origin as it was. -/
theorem origin_step_refused (stage : Stage H) (act : Act H) (controller : Controller)
    (h : act.attempt stage.host = .putOn controller)
    (hanswer : act.answer stage.host stage.supply = false) :
    origin (stage.step act).past = origin stage.past := by
  simp [step, origin_concat, Act.moment, Moment.takesOff, Moment.basis, h, hanswer]

/-- Putting the overlay on makes the live values the origin, unless there is one. -/
theorem origin_step_putOn (stage : Stage H) (act : Act H) (controller : Controller)
    (h : act.attempt stage.host = .putOn controller)
    (hanswer : act.answer stage.host stage.supply = true) :
    origin (stage.step act).past = (origin stage.past).or (liveOf stage.host) := by
  simp [step, origin_concat, Act.moment, Moment.takesOff, Moment.basis, h, hanswer]

/-- There is no origin once the overlay was taken off. -/
theorem origin_step_takeOff (stage : Stage H) (act : Act H)
    (h : act.attempt stage.host = .takeOff) : origin (stage.step act).past = none := by
  simp [step, origin_concat, Act.moment, Moment.takesOff, h]

end Stage

/-! ## What a host has put aside -/

namespace Stage

/-- The slots hold the origin of the past, both or neither, and a host that holds something has
highlighting. -/
structure Remembers (stage : Stage H) : Prop where
  savedRules : (Host.overlay stage.host).savedRules = (origin stage.past).map (·.rules)
  savedFeatures : (Host.overlay stage.host).savedFeatures = (origin stage.past).map (·.features)
  hasHighlight : (origin stage.past).isSome = true → Host.hasHighlight stage.host = true

namespace Remembers

variable {stage : Stage H}

/-- Both slots together hold the origin. -/
theorem saved_eq (h : stage.Remembers) : (Host.overlay stage.host).saved = origin stage.past := by
  unfold OverlayRecord.saved
  rw [h.savedRules, h.savedFeatures]
  cases origin stage.past <;> rfl

/-- A host about which nothing has happened remembers nothing. -/
theorem start (host : H) (supply : Supply) (h : (Host.overlay host).isClear = true) :
    Remembers ⟨host, supply, []⟩ := by
  unfold OverlayRecord.isClear at h
  rw [Bool.and_eq_true, Option.isNone_iff_eq_none, Option.isNone_iff_eq_none] at h
  exact ⟨h.1, h.2, fun hsome => by cases hsome⟩

end Remembers

end Stage

end Acts

section Laws

variable {H : Type} [Host H] [WatchedHost H] [LawfulHost H]

/-- Moving the flag changes nothing else. -/
theorem view_flagged (on : Bool) (host : H) :
    view (flagged on host) =
      { view host with overlay := { Host.overlay host with enabled := on } } :=
  LawfulHost.view_setOverlay host _

namespace Act

/-- Up to the flag, the prepared host looks as the host did before an act that puts the overlay on or
takes it off. -/
theorem view_prepared (host : H) (act : Act H) (h : act.attempt host ≠ .neither) :
    ∃ on, view (act.prepared host) =
      { view host with overlay := { Host.overlay host with enabled := on } } := by
  cases act with
  | enable controller => exact ⟨(Host.overlay host).enabled, rfl⟩
  | disable => exact ⟨(Host.overlay host).enabled, rfl⟩
  | set switch on => exact ⟨on, view_flagged on host⟩
  | toggle switch => exact ⟨_, view_flagged _ host⟩
  | foreign change => exact absurd rfl h

/-- A refused act leaves everything but the flag as it was. -/
theorem view_perform_of_refused (host : H) (supply : Supply) (act : Act H) (controller : Controller)
    (h : act.attempt host = .putOn controller) (hanswer : act.answer host supply = false) :
    ∃ on, view (act.perform host supply).1 =
      { view host with overlay := { Host.overlay host with enabled := on } } := by
  obtain ⟨on, hprepared⟩ := view_prepared host act (by rw [h]; exact nofun)
  refine ⟨on, ?_⟩
  simp only [answer, h] at hanswer
  simp only [perform_eq, h]
  rcases Controller.enable_cases controller supply (act.prepared host) with
    ⟨overlay, rules, features, -, -, -, henable⟩ | henable
  · rw [henable] at hanswer
    cases hanswer
  · rw [henable]
    exact hprepared

/-- An act that puts the overlay on starts from what was put aside, or else from the live values. -/
theorem view_perform_of_putOn (host : H) (supply : Supply) (act : Act H) (controller : Controller)
    (h : act.attempt host = .putOn controller) (hanswer : act.answer host supply = true) :
    ∃ (overlay merged : Shared RuleSet) (raised : Shared FeatureList) (live : Snapshot) (on : Bool),
      Host.hasHighlight host = true ∧ liveOf host = some live ∧
      (Host.language host).bind controller.registry.lookup = some overlay ∧
      let saved := (Host.overlay host).saved.getD live
      let after := (act.perform host supply).1
      merged.value = saved.rules.value.concat overlay.value ∧
      raised.value = saved.features.value.withTopPriority controller.feature ∧
      view after =
        { view host with
          rules := some merged
          features := some raised
          overlay := ⟨on, some saved.rules, some saved.features⟩ } ∧
      effective after = raised.value.effective (level host) := by
  obtain ⟨on, hprepared⟩ := view_prepared host act (by rw [h]; exact nofun)
  simp only [answer, h] at hanswer
  obtain ⟨overlay, merged, raised, live, hhost, hlookup, hrules, hfeatures, hmerged, hraised, hview,
    heffective⟩ := Controller.enable_view controller supply (act.prepared host) hanswer
  -- all that was learnt of the prepared host holds of the host itself
  have hrecord : Host.overlay (act.prepared host) = { Host.overlay host with enabled := on } :=
    congrArg HostView.overlay hprepared
  have hsaved : (Host.overlay (act.prepared host)).saved = (Host.overlay host).saved := by
    rw [hrecord]
    rfl
  have hsameRules : Host.rules (act.prepared host) = Host.rules host :=
    congrArg HostView.rules hprepared
  have hsameFeatures : Host.features (act.prepared host) = Host.features host :=
    congrArg HostView.features hprepared
  have hlanguage : Host.language (act.prepared host) = Host.language host :=
    congrArg HostView.language hprepared
  have hlevel : level (act.prepared host) = level host := congrArg HostView.level hprepared
  have hlive : liveOf host = some live := by
    unfold liveOf
    rw [← hsameRules, ← hsameFeatures, hrules, hfeatures]
  rw [hsaved] at hmerged hraised hview
  rw [hlanguage] at hlookup
  rw [hlevel] at heffective
  refine ⟨overlay, merged, raised, live, on,
    (congrArg HostView.hasHighlight hprepared).symm.trans hhost, hlive, hlookup, ?_⟩
  simp only [perform_eq, h]
  refine ⟨hmerged, hraised, ?_, heffective⟩
  rw [hview, hprepared, hrecord]

/-- Taking the overlay off where nothing was put aside leaves everything but the record as it was. -/
theorem view_perform_of_takeOff_none (host : H) (supply : Supply) (act : Act H)
    (h : act.attempt host = .takeOff) (hsaved : (Host.overlay host).saved = none) :
    act.answer host supply = false ∧
      ∃ on, view (act.perform host supply).1 = { view host with overlay := ⟨on, none, none⟩ } := by
  obtain ⟨on, hprepared⟩ := view_prepared host act (by rw [h]; exact nofun)
  have hrecord : Host.overlay (act.prepared host) = { Host.overlay host with enabled := on } :=
    congrArg HostView.overlay hprepared
  have hnone : (Host.overlay (act.prepared host)).saved = none := by
    rw [hrecord, ← hsaved]
    rfl
  obtain ⟨hanswer, hview⟩ := Controller.disable_view_of_none (act.prepared host) hnone
  refine ⟨by simp only [answer, h, hanswer], on, ?_⟩
  simp only [perform_eq, h]
  rw [hview, hprepared, hrecord]

/-- Taking the overlay off where something was put aside makes just that live again. -/
theorem view_perform_of_takeOff_some (host : H) (supply : Supply) (act : Act H) (saved : Snapshot)
    (h : act.attempt host = .takeOff) (hsaved : (Host.overlay host).saved = some saved)
    (hhost : Host.hasHighlight host = true) :
    act.answer host supply = true ∧
      ∃ on, view (act.perform host supply).1 =
        { view host with
          rules := some saved.rules
          features := some saved.features
          overlay := ⟨on, none, none⟩ } := by
  obtain ⟨on, hprepared⟩ := view_prepared host act (by rw [h]; exact nofun)
  have hrecord : Host.overlay (act.prepared host) = { Host.overlay host with enabled := on } :=
    congrArg HostView.overlay hprepared
  have hsome : (Host.overlay (act.prepared host)).saved = some saved := by
    rw [hrecord, ← hsaved]
    rfl
  obtain ⟨hanswer, hview⟩ := Controller.disable_view_of_some (act.prepared host) saved hsome
    ((congrArg HostView.hasHighlight hprepared).trans hhost)
  refine ⟨by simp only [answer, h, hanswer], on, ?_⟩
  simp only [perform_eq, h]
  rw [hview, hprepared, hrecord]

end Act

namespace Stage

/-- Every act keeps a stage that remembers its past. -/
theorem Remembers.step {stage : Stage H} (h : stage.Remembers) (act : Act H) :
    (stage.step act).Remembers := by
  cases hattempt : act.attempt stage.host with
  | neither =>
    obtain ⟨change, rfl⟩ := act.eq_foreign_of_neither stage.host hattempt
    have hrecord : Host.overlay (change.write stage.host) = Host.overlay stage.host :=
      change.overlay_write stage.host
    have horigin := origin_step_neither stage _ hattempt
    refine ⟨?_, ?_, ?_⟩
    · rw [horigin, ← h.savedRules]
      exact congrArg OverlayRecord.savedRules hrecord
    · rw [horigin, ← h.savedFeatures]
      exact congrArg OverlayRecord.savedFeatures hrecord
    · rw [horigin]
      exact fun hsome => (change.hasHighlight_write stage.host).trans (h.hasHighlight hsome)
  | putOn controller =>
    cases hanswer : act.answer stage.host stage.supply with
    | false =>
      obtain ⟨on, hview⟩ :=
        act.view_perform_of_refused stage.host stage.supply controller hattempt hanswer
      have hrecord : Host.overlay (stage.step act).host =
          { Host.overlay stage.host with enabled := on } := congrArg HostView.overlay hview
      have hlit : Host.hasHighlight (stage.step act).host = Host.hasHighlight stage.host :=
        congrArg HostView.hasHighlight hview
      have horigin := origin_step_refused stage act controller hattempt hanswer
      refine ⟨?_, ?_, ?_⟩
      · rw [horigin, hrecord, ← h.savedRules]
      · rw [horigin, hrecord, ← h.savedFeatures]
      · rw [horigin, hlit]
        exact h.hasHighlight
    | true =>
      obtain ⟨overlay, merged, raised, live, on, hhost, hlive, -, -, -, hview, -⟩ :=
        act.view_perform_of_putOn stage.host stage.supply controller hattempt hanswer
      have hrecord : Host.overlay (stage.step act).host =
          ⟨on, some ((Host.overlay stage.host).saved.getD live).rules,
            some ((Host.overlay stage.host).saved.getD live).features⟩ :=
        congrArg HostView.overlay hview
      have hlit : Host.hasHighlight (stage.step act).host = Host.hasHighlight stage.host :=
        congrArg HostView.hasHighlight hview
      have horigin := origin_step_putOn stage act controller hattempt hanswer
      rw [hlive, ← h.saved_eq] at horigin
      refine ⟨?_, ?_, ?_⟩
      · rw [horigin, hrecord]
        cases (Host.overlay stage.host).saved <;> rfl
      · rw [horigin, hrecord]
        cases (Host.overlay stage.host).saved <;> rfl
      · exact fun _ => hlit.trans hhost
  | takeOff =>
    have horigin := origin_step_takeOff stage act hattempt
    have hrecord : ∃ on, Host.overlay (stage.step act).host = ⟨on, none, none⟩ := by
      cases hsaved : (Host.overlay stage.host).saved with
      | none =>
        obtain ⟨-, on, hview⟩ :=
          act.view_perform_of_takeOff_none stage.host stage.supply hattempt hsaved
        exact ⟨on, congrArg HostView.overlay hview⟩
      | some saved =>
        have hhost := h.hasHighlight (by rw [← h.saved_eq, hsaved]; rfl)
        obtain ⟨-, on, hview⟩ :=
          act.view_perform_of_takeOff_some stage.host stage.supply saved hattempt hsaved hhost
        exact ⟨on, congrArg HostView.overlay hview⟩
    obtain ⟨on, hrecord⟩ := hrecord
    refine ⟨?_, ?_, ?_⟩
    · rw [horigin, hrecord]
      rfl
    · rw [horigin, hrecord]
      rfl
    · rw [horigin]
      exact nofun

/-- Every run keeps a stage that remembers its past. -/
theorem Remembers.run {stage : Stage H} (h : stage.Remembers) (acts : List (Act H)) :
    (stage.run acts).Remembers := by
  induction acts generalizing stage with
  | nil => exact h
  | cons act acts ih => exact ih (h.step act)

end Stage

/-- In every run over a host of which nothing was put aside, by any controllers and switches and with
any writes from elsewhere in between:
the two slots are both full or both empty;
once a controller has put its overlay on, the live rules are those of the origin with its overlay of the
current language behind them, the live features are those of the origin with its feature on top, and
the enabled features are theirs at the current level;
once the overlay was taken off a host with a snapshot, the rules and the features of the origin are live
again, the very same ones;
and taking it off a host without one leaves the live values alone. In both cases the slots are empty. -/
theorem overlay_history (host : H) (supply : Supply) (hclear : (Host.overlay host).isClear = true)
    (acts : List (Act H)) (act : Act H) :
    let stage := Stage.run ⟨host, supply, []⟩ acts
    let next := stage.step act
    let answer := act.answer stage.host stage.supply
    ((Host.overlay stage.host).hasSnapshot = true ∨ (Host.overlay stage.host).isClear = true) ∧
    (∀ controller, act.attempt stage.host = .putOn controller → answer = true →
      ∃ (R : Shared RuleSet) (F : Shared FeatureList) (overlay live : Shared RuleSet)
        (raised : Shared FeatureList),
        origin next.past = some ⟨R, F⟩ ∧
        (Host.language stage.host).bind controller.registry.lookup = some overlay ∧
        Host.rules next.host = some live ∧
        live.value.rules = R.value.rules ++ overlay.value.rules ∧
        Host.features next.host = some raised ∧
        raised.value = F.value.withTopPriority controller.feature ∧
        effective next.host = raised.value.effective (level next.host)) ∧
    (act.attempt stage.host = .takeOff →
      (Host.overlay next.host).isClear = true ∧
      ((Host.overlay stage.host).hasSnapshot = true →
        ∃ (R : Shared RuleSet) (F : Shared FeatureList),
          origin stage.past = some ⟨R, F⟩ ∧ answer = true ∧
          Host.rules next.host = some R ∧ Host.features next.host = some F) ∧
      ((Host.overlay stage.host).hasSnapshot = false →
        answer = false ∧ Host.rules next.host = Host.rules stage.host ∧
        Host.features next.host = Host.features stage.host)) := by
  intro stage next answer
  have hstage : stage.Remembers := (Stage.Remembers.start host supply hclear).run acts
  have hsaved := hstage.saved_eq
  refine ⟨?_, ?_, ?_⟩
  · unfold OverlayRecord.hasSnapshot OverlayRecord.isClear
    rw [hstage.savedRules, hstage.savedFeatures]
    cases origin stage.past with
    | none => exact Or.inr rfl
    | some snapshot => exact Or.inl rfl
  · intro controller hattempt hanswer
    obtain ⟨overlay, merged, raised, live, on, -, hlive, hlookup, hmerged, hraised, hview,
      heffective⟩ := act.view_perform_of_putOn stage.host stage.supply controller hattempt hanswer
    have horigin : origin next.past = some ((Host.overlay stage.host).saved.getD live) := by
      rw [Stage.origin_step_putOn stage act controller hattempt hanswer, hlive, ← hsaved]
      cases (Host.overlay stage.host).saved <;> rfl
    have hlevel : level next.host = level stage.host := congrArg HostView.level hview
    refine ⟨_, _, overlay, merged, raised, horigin, hlookup, congrArg HostView.rules hview, ?_,
      congrArg HostView.features hview, hraised, ?_⟩
    · rw [hmerged]
      rfl
    · rw [hlevel]
      exact heffective
  · intro hattempt
    cases h : (Host.overlay stage.host).saved with
    | none =>
      have hhas : (Host.overlay stage.host).hasSnapshot = false := by
        rw [OverlayRecord.hasSnapshot_eq_isSome_saved, h]
        rfl
      obtain ⟨hanswer, on, hview⟩ :=
        act.view_perform_of_takeOff_none stage.host stage.supply hattempt h
      have hrecord : Host.overlay next.host = ⟨on, none, none⟩ := congrArg HostView.overlay hview
      refine ⟨by rw [hrecord]; rfl, ?_, ?_⟩
      · intro hsome
        rw [hhas] at hsome
        cases hsome
      · exact fun _ => ⟨hanswer, congrArg HostView.rules hview, congrArg HostView.features hview⟩
    | some saved =>
      have hhas : (Host.overlay stage.host).hasSnapshot = true := by
        rw [OverlayRecord.hasSnapshot_eq_isSome_saved, h]
        rfl
      have horigin : origin stage.past = some saved := hsaved.symm.trans h
      obtain ⟨hanswer, on, hview⟩ :=
        act.view_perform_of_takeOff_some stage.host stage.supply saved hattempt h
          (hstage.hasHighlight (by rw [horigin]; rfl))
      have hrecord : Host.overlay next.host = ⟨on, none, none⟩ := congrArg HostView.overlay hview
      refine ⟨by rw [hrecord]; rfl, ?_, ?_⟩
      · exact fun _ => ⟨saved.rules, saved.features, horigin, hanswer,
          congrArg HostView.rules hview, congrArg HostView.features hview⟩
      · intro hnone
        rw [hhas] at hnone
        cases hnone

end Laws

/-! ## A run with two controllers and a write in between -/

/-- A rule with a given identity. -/
def stampedRule (stamp : Nat) : Rule := ⟨stamp, "", .deemphasis, .overlay, .json, ⟨⟨[], []⟩, 0⟩⟩

/-- A controller that puts one rule on texts in JSON. -/
def stampedController (stamp : Nat) (feature : Feature) : Controller :=
  ⟨⟨[(.json, ⟨stamp, ⟨[stampedRule stamp]⟩⟩)]⟩, feature⟩

/-- A document with one base rule and one tier of features. -/
def litDocument : Document :=
  { Document.ofText ⟨0⟩ "1" (some .json) with
    parsers := [Parser.fresh .json]
    highlight := some (Highlight.start ⟨0, ⟨[stampedRule 1]⟩⟩ ⟨1, ⟨[[⟨"comment"⟩]]⟩⟩ 3) }

/-- Someone replaces the live rules of a document. -/
def replaceRules (rules : Shared RuleSet) : ForeignWrite Document where
  write := Host.setRules rules
  hasHighlight_write document := by
    change (document.highlight.map _).isSome = document.highlight.isSome
    cases document.highlight <;> rfl
  overlay_write _ := rfl

/-- A second controller starts from the base rules, neither from the rules that someone wrote in
between nor from those with the first overlay. -/
theorem overlay_history_replaced :
    litDocument.overlay.isClear = true ∧
      ∃ live raised,
        Host.rules ((Stage.run ⟨litDocument, ⟨2⟩, []⟩
          [.enable (stampedController 5 ⟨"dim"⟩), .foreign (replaceRules ⟨7, ⟨[stampedRule 7]⟩⟩)]).step
            (.enable (stampedController 6 ⟨"faint"⟩))).host = some live ∧
        live.value.stamps = [1, 6] ∧
        Host.features ((Stage.run ⟨litDocument, ⟨2⟩, []⟩
          [.enable (stampedController 5 ⟨"dim"⟩), .foreign (replaceRules ⟨7, ⟨[stampedRule 7]⟩⟩)]).step
            (.enable (stampedController 6 ⟨"faint"⟩))).host = some raised ∧
        raised.value.tiers = [[⟨"faint"⟩, ⟨"comment"⟩]] := by
  refine ⟨rfl, ?_⟩
  obtain ⟨R, F, overlay, live, raised, horigin, hlookup, hlive, hrules, hraised, hfeatures, -⟩ :=
    (overlay_history litDocument ⟨2⟩ rfl
      [.enable (stampedController 5 ⟨"dim"⟩), .foreign (replaceRules ⟨7, ⟨[stampedRule 7]⟩⟩)]
      (.enable (stampedController 6 ⟨"faint"⟩))).2.1 _ rfl rfl
  cases horigin
  cases hlookup
  refine ⟨live, raised, hlive, ?_, hraised, ?_⟩
  · unfold RuleSet.stamps
    rw [hrules]
    rfl
  · rw [hfeatures]
    rfl

end Dimming.Proofs.OverlayHistory
