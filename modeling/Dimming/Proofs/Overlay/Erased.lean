import Dimming.Proofs.Overlay.Footing

/-!
# Attempts that come to nothing

A host may lose its parsers or its language, and it may hide its live rules or its live features, and
get them back, while controllers try to put the overlay on and to take it off. An attempt that comes to
nothing keeps the footing of the host, so a run without all of these attempts goes through the same
footings.
-/

set_option autoImplicit false

namespace Dimming.Proofs.OverlayTraces

open VeiledHost

/-- A host gains or loses parsers, its language or the sight of its live values. -/
structure SupportChange (H : Type) [Host H] [VeiledHost H] where
  write : H → H
  effect : Support → Support
  footing_write : ∀ host : H,
    footing (write host) = { footing host with support := effect (support host) }

/-- What can happen to a host. -/
inductive Act (H : Type) [Host H] [VeiledHost H] where
  | enable (controller : Controller)
  | disable
  | alter (change : SupportChange H)

/-- A host in the course of a run. -/
structure Stage (H : Type) where
  host : H
  supply : Supply

section Runs

variable {H : Type} [Host H] [VeiledHost H]

/-- What an act does to the footing of a host, and whether it comes to something. -/
def Act.onFooting (supply : Supply) (footing : Footing) : Act H → Bool × Footing × Supply
  | .enable controller => footing.putOn controller supply
  | .disable => (footing.takeOff.1, footing.takeOff.2, supply)
  | .alter change => (true, { footing with support := change.effect footing.support }, supply)

namespace Stage

/-- An act comes to something: the overlay was put on, or something was restored, or the host changed. -/
def answer (stage : Stage H) : Act H → Bool
  | .enable controller => (controller.enable stage.supply stage.host).1
  | .disable => (Controller.disable stage.host).1
  | .alter _ => true

/-- The stage after an act. -/
def step (stage : Stage H) : Act H → Stage H
  | .enable controller =>
    let outcome := (controller.enable stage.supply stage.host).2
    ⟨outcome.1, outcome.2⟩
  | .disable => ⟨(Controller.disable stage.host).2, stage.supply⟩
  | .alter change => ⟨change.write stage.host, stage.supply⟩

/-- The stage after some acts. -/
def run (stage : Stage H) (acts : List (Act H)) : Stage H := acts.foldl step stage

/-- Of some acts, those that come to something. -/
def lasting (stage : Stage H) : List (Act H) → List (Act H)
  | [] => []
  | act :: acts =>
    if stage.answer act then act :: (stage.step act).lasting acts else (stage.step act).lasting acts

/-- The acts that last among some acts and more are those among the first and then those among the others. -/
theorem lasting_append (stage : Stage H) (acts more : List (Act H)) :
    stage.lasting (acts ++ more) = stage.lasting acts ++ (stage.run acts).lasting more := by
  induction acts generalizing stage with
  | nil => rfl
  | cons act acts ih =>
    rw [List.cons_append, lasting, lasting, ih]
    split <;> rfl

/-- Two stages with the same supply and with hosts on alike footings. -/
structure Alike (stage other : Stage H) : Prop where
  footings : (footing stage.host).Alike (footing other.host)
  supply : stage.supply = other.supply

/-- A stage is like itself. -/
theorem Alike.refl (stage : Stage H) : stage.Alike stage := ⟨.refl _, rfl⟩

/-- Likeness of stages is passed on. -/
theorem Alike.trans {stage other third : Stage H} (h : stage.Alike other) (hother : other.Alike third) :
    stage.Alike third :=
  ⟨h.footings.trans hother.footings, h.supply.trans hother.supply⟩

section Laws

variable [LawfulVeil H]

/-- An act on a host is the act on its footing. -/
theorem onFooting_eq (stage : Stage H) (act : Act H) :
    act.onFooting stage.supply (footing stage.host) =
      (stage.answer act, footing (stage.step act).host, (stage.step act).supply) := by
  cases act with
  | enable controller => exact (Controller.footing_enable controller stage.supply stage.host).symm
  | disable =>
    rw [Act.onFooting, ← Controller.footing_disable]
    rfl
  | alter change =>
    rw [Act.onFooting, step, change.footing_write]
    rfl

/-- An act comes to the same on alike stages, and leaves them alike. -/
theorem Alike.step {stage other : Stage H} (h : stage.Alike other) (act : Act H) :
    stage.answer act = other.answer act ∧ (stage.step act).Alike (other.step act) := by
  have hturned : (act.onFooting stage.supply (footing stage.host)).1 =
        (act.onFooting stage.supply (footing other.host)).1 ∧
      (act.onFooting stage.supply (footing stage.host)).2.1.Alike
        (act.onFooting stage.supply (footing other.host)).2.1 ∧
      (act.onFooting stage.supply (footing stage.host)).2.2 =
        (act.onFooting stage.supply (footing other.host)).2.2 := by
    cases act with
    | enable controller => exact h.footings.putOn controller stage.supply
    | disable => exact ⟨h.footings.takeOff.1, h.footings.takeOff.2, rfl⟩
    | alter change =>
      exact ⟨rfl, ⟨congrArg change.effect h.footings.support, h.footings.live, h.footings.saved⟩, rfl⟩
  have hother := onFooting_eq other act
  rw [← h.supply] at hother
  rw [onFooting_eq, hother] at hturned
  obtain ⟨hanswer, hfooting, hsupply⟩ := hturned
  exact ⟨hanswer, hfooting, hsupply⟩

/-- An act that comes to nothing leaves an alike stage. -/
theorem step_alike_of_idle (stage : Stage H) (act : Act H) (h : stage.answer act = false) :
    (stage.step act).Alike stage := by
  have hturned := onFooting_eq stage act
  cases act with
  | enable controller =>
    have hfailed : ((footing stage.host).putOn controller stage.supply).1 = false :=
      (congrArg Prod.fst hturned).trans h
    have hsame := (congrArg Prod.snd hturned).symm.trans (Footing.putOn_of_failed hfailed)
    obtain ⟨hfooting, hsupply⟩ := Prod.mk.inj hsame
    exact ⟨hfooting ▸ .refl _, hsupply⟩
  | disable =>
    have hfailed : (footing stage.host).takeOff.1 = false :=
      (congrArg Prod.fst hturned).trans h
    have hafter : (footing stage.host).takeOff.2 =
        footing (stage.step .disable).host :=
      congrArg (fun outcome => outcome.2.1) hturned
    exact ⟨hafter ▸ Footing.takeOff_of_failed hfailed, rfl⟩
  | alter change => cases h

/-- Without the acts that come to nothing, a run that starts alike ends alike. -/
theorem Alike.run {stage other : Stage H} (h : stage.Alike other) (acts : List (Act H)) :
    (stage.run acts).Alike (other.run (stage.lasting acts)) := by
  induction acts generalizing stage other with
  | nil => exact h
  | cons act acts ih =>
    rw [lasting]
    -- an act that comes to nothing is done in the one run only, which stays alike
    cases hanswer : stage.answer act with
    | true => exact ih (h.step act).2
    | false => exact ih ((stage.step_alike_of_idle act hanswer).trans h)

/-- Slots that are full or empty together stay so. -/
theorem isWhole_step {stage : Stage H} (h : (Host.overlay stage.host).IsWhole) (act : Act H) :
    (Host.overlay (stage.step act).host).IsWhole := by
  have hafter : (act.onFooting stage.supply (footing stage.host)).2.1.overlay =
      Host.overlay (stage.step act).host :=
    congrArg (fun outcome => outcome.2.1.overlay) (onFooting_eq stage act)
  rw [← hafter]
  cases act with
  | enable controller => exact Footing.isWhole_putOn h controller stage.supply
  | disable => exact Footing.isWhole_takeOff _
  | alter change => exact h

/-- The record of the overlay stays whole during a run. -/
theorem isWhole_run {stage : Stage H} (h : (Host.overlay stage.host).IsWhole) (acts : List (Act H)) :
    (Host.overlay (stage.run acts).host).IsWhole := by
  induction acts generalizing stage with
  | nil => exact h
  | cons act acts ih => exact ih (isWhole_step h act)

end Laws

end Stage

/-- Attempts that come to nothing leave no trace. A controller puts its overlay on a host exactly when the
host has highlighting, a parser, a language with a registered overlay, and lets its live rules and
features be seen; when it does not, the host is the very same as before, so nothing was computed again
and no repaint was asked for. In any run of such attempts and of attempts to take the overlay off, in which
the host may gain and lose parsers, language and the sight of its live values, leave out all attempts
that came to nothing. What is left goes through the same live rules and features and the same snapshots,
at every point of the run; and through the same slots, if these were full or empty together. -/
theorem soft_failures_leave_no_trace [LawfulVeil H] (host : H) (supply : Supply) :
    (∀ controller : Controller,
      ((controller.enable supply host).1 = true ↔
        Host.hasHighlight host = true ∧ Host.parserCount host ≠ 0 ∧
        (∃ language overlay, Host.language host = some language ∧
          controller.registry.lookup language = some overlay) ∧
        (Host.rules host).isSome = true ∧ (Host.features host).isSome = true) ∧
      ((controller.enable supply host).1 = false →
        (controller.enable supply host).2 = (host, supply))) ∧
    ∀ earlier later : List (Act H),
      let start : Stage H := ⟨host, supply⟩
      let kept := start.lasting earlier
      kept <+: start.lasting (earlier ++ later) ∧
      live (start.run kept).host = live (start.run earlier).host ∧
      (Host.overlay (start.run kept).host).saved = (Host.overlay (start.run earlier).host).saved ∧
      ((Host.overlay host).IsWhole →
        (Host.overlay (start.run kept).host).savedRules =
            (Host.overlay (start.run earlier).host).savedRules ∧
          (Host.overlay (start.run kept).host).savedFeatures =
            (Host.overlay (start.run earlier).host).savedFeatures) := by
  constructor
  · intro controller
    exact ⟨controller.enable_eq_true_iff supply host, controller.enable_of_refused supply host⟩
  · intro earlier later start kept
    have halike : (start.run earlier).Alike (start.run kept) := (Stage.Alike.refl start).run earlier
    refine ⟨⟨_, (start.lasting_append earlier later).symm⟩, halike.footings.live.symm,
      halike.footings.saved.symm, ?_⟩
    intro hwhole
    exact (Stage.isWhole_run hwhole kept).slots_eq (Stage.isWhole_run hwhole earlier)
      halike.footings.saved.symm

end Runs

/-! ## A run in which most attempts fail -/

/-- A host that can hide its live values and counts what it is asked for. -/
structure Bench where
  language : Option Language
  parsers : Nat
  highlight : Option Highlight
  record : OverlayRecord
  hidesRules : Bool
  hidesFeatures : Bool
  repaints : Nat
  recomputes : Nat

namespace Bench

instance : Host Bench where
  hasHighlight bench := bench.highlight.isSome
  parserCount bench := bench.parsers
  language bench := bench.language
  rules bench := if bench.hidesRules then none else bench.highlight.map (·.rules)
  setRules rules bench := { bench with highlight := bench.highlight.map ({ · with rules }) }
  features bench := if bench.hidesFeatures then none else bench.highlight.map (·.features)
  setFeatures features bench := { bench with highlight := bench.highlight.map ({ · with features }) }
  recompute bench :=
    { bench with
      highlight := bench.highlight.map Highlight.recompute
      recomputes := bench.recomputes + 1 }
  requestRepaint bench := { bench with repaints := bench.repaints + 1 }
  overlay bench := bench.record
  setOverlay record bench := { bench with record }

instance : VeiledHost Bench where
  showsRules bench := !bench.hidesRules
  showsFeatures bench := !bench.hidesFeatures
  live bench := bench.highlight.map (fun state => ⟨state.rules, state.features⟩)

/-- What is live on a bench is what its highlighting holds. -/
theorem live_eq (bench : Bench) :
    live bench = bench.highlight.map (fun state => ⟨state.rules, state.features⟩) := rfl

instance : LawfulVeil Bench where
  hasHighlight_eq bench := by
    rw [live_eq, Option.isSome_map]
    rfl
  rules_eq bench := by
    show (if bench.hidesRules then none else bench.highlight.map (·.rules)) =
      if !bench.hidesRules then (live bench).map (·.rules) else none
    rw [live_eq, Option.map_map]
    cases bench.hidesRules <;> rfl
  features_eq bench := by
    show (if bench.hidesFeatures then none else bench.highlight.map (·.features)) =
      if !bench.hidesFeatures then (live bench).map (·.features) else none
    rw [live_eq, Option.map_map]
    cases bench.hidesFeatures <;> rfl
  footing_setRules bench rules := by
    unfold footing
    rw [live_eq, live_eq, Option.map_map]
    simp only [Host.setRules, Option.map_map]
    rfl
  footing_setFeatures bench features := by
    unfold footing
    rw [live_eq, live_eq, Option.map_map]
    simp only [Host.setFeatures, Option.map_map]
    rfl
  footing_setOverlay _ _ := rfl
  footing_recompute bench := by
    unfold footing
    rw [live_eq, live_eq]
    simp only [Host.recompute, Option.map_map]
    rfl
  footing_requestRepaint _ := rfl

/-- The parsers of a bench are replaced. -/
def parse (count : Nat) : SupportChange Bench where
  write bench := { bench with parsers := count }
  effect support := { support with parserCount := count }
  footing_write _ := rfl

/-- A bench hides its live features. -/
def hideFeatures : SupportChange Bench where
  write bench := { bench with hidesFeatures := true }
  effect support := { support with showsFeatures := false }
  footing_write _ := rfl

/-- A bench with highlighting that nothing parses yet. -/
def unparsed : Bench where
  language := some .json
  parsers := 0
  highlight := some (Highlight.start ⟨0, ⟨[]⟩⟩ ⟨1, ⟨[[⟨"comment"⟩]]⟩⟩ 3)
  record := .clear
  hidesRules := false
  hidesFeatures := false
  repaints := 0
  recomputes := 0

/-- A controller with an empty overlay for texts in JSON. -/
def controller : Controller := ⟨⟨[(.json, ⟨5, ⟨[]⟩⟩)]⟩, ⟨"dim"⟩⟩

/-- The overlay is put on too early, put on, put on while the features are hidden, and taken off twice. -/
def attempts : List (Act Bench) :=
  [.enable controller, .alter (parse 1), .enable controller, .alter hideFeatures, .enable controller,
    .disable, .disable]

end Bench

open Bench in
/-- Three of seven acts come to nothing; the first of them asks for no repaint, and without all of them
the bench ends with the same live values and slots. -/
theorem soft_failures_leave_no_trace_bench :
    let start : Stage Bench := ⟨unparsed, ⟨2⟩⟩
    let kept := start.lasting attempts
    (controller.enable ⟨2⟩ unparsed).2.1.repaints = 0 ∧
    attempts.length = 7 ∧ kept.length = 4 ∧
    live (start.run kept).host = live (start.run attempts).host ∧
    (Host.overlay (start.run kept).host).savedRules =
      (Host.overlay (start.run attempts).host).savedRules := by
  intro start kept
  obtain ⟨hattempt, hruns⟩ := soft_failures_leave_no_trace unparsed ⟨2⟩
  obtain ⟨-, hlive, -, hslots⟩ := hruns attempts []
  refine ⟨?_, rfl, rfl, hlive, (hslots (Or.inr rfl)).1⟩
  rw [(hattempt controller).2 rfl]
  rfl

end Dimming.Proofs.OverlayTraces
