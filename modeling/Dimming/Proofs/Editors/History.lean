import Dimming.Command
import Dimming.Proofs.Editors.Accord

/-!
# The history of an editor

Documents are opened, edited, given orders and closed, any number of them and in any order. What a
document shows does not depend on the way there: the orders that were given to it, folded from what the
settings say, tell the position of its switch and its level, and these determine its highlighting and
its record. Base rules and base features are the very same values in all documents of a language, for as
long as the editor lives.
-/

set_option autoImplicit false

namespace Dimming.Proofs.EditorHistory

/-- What can be asked of a document that shows in its highlighting. -/
inductive Order where
  | turn (on : Bool)
  | turnOver
  | setLevel (level : Nat)

namespace Order

/-- The position of the switch after an order. -/
def position (on : Bool) : Order → Bool
  | .turn next => next
  | .turnOver => !on
  | .setLevel _ => on

/-- The level after an order. -/
def depth (level : Nat) : Order → Nat
  | .setLevel next => next
  | _ => level

/-- The editor after an order to a document. -/
def give (editor : Editor) (id : DocumentId) : Order → Editor
  | .turn on => (editor.setOverlay id on).2
  | .turnOver => (editor.toggleOverlay id).2
  | .setLevel level => (editor.setLevel id level).2

/-- The answer to an order to a document, and the editor after it. -/
def outcome (editor : Editor) (id : DocumentId) : Order → Editor.Outcome Unit
  | .turn on => CommandRegistry.dropAnswer (editor.setOverlay id on)
  | .turnOver => CommandRegistry.dropAnswer (editor.toggleOverlay id)
  | .setLevel level => editor.setLevel id level

/-- The editor that an order leaves. -/
theorem outcome_snd (editor : Editor) (id : DocumentId) (order : Order) :
    (order.outcome editor id).2 = order.give editor id := by
  cases order <;> rfl

/-- The built-in command that gives an order to the active document. -/
def command : Order → Command
  | .turn true => .enableOverlay
  | .turn false => .disableOverlay
  | .turnOver => .toggleOverlay
  | .setLevel level => .setLevel level

/-- What a document makes of an order. -/
def obey (switch : Switch) (supply : Supply) (document : Document) : Order → Document
  | .turn on => (switch.set supply on document).1
  | .turnOver => (switch.toggle supply document).2.1
  | .setLevel level => (document.setLevel level).2

end Order

/-- What can be done to an editor. -/
inductive Act where
  | openFile (disk : Disk) (path : String)
  | openText (text : String) (language : Option Language)
  | close (id : DocumentId)
  | give (id : DocumentId) (order : Order)
  | command (registry : CommandRegistry) (order : Order)
  | insert (id : DocumentId) (index : Nat) (text : String)
  | delete (id : DocumentId) (start stop : Nat)

namespace Act

/-- The document that is given an order, if it is open, and the order. -/
def heard (editor : Editor) : Act → List (DocumentId × Order)
  | .give id order => [(id, order)].filter (fun told => (editor.shelf.get? told.1).isSome)
  | .command _ order =>
    (editor.shelf.active.toList.map (·, order)).filter
      (fun told => (editor.shelf.get? told.1).isSome)
  | _ => []

/-- The editor after an act. -/
def perform [ParseEngine] (editor : Editor) : Act → Editor
  | .openFile disk path => (editor.openFile disk path).2
  | .openText text language => (editor.openText text language).2
  | .close id => (editor.closeDocument id).2
  | .give id order => order.give editor id
  | .command registry order => (registry.execute order.command editor).2
  | .insert id index text => (editor.insert id index text).2
  | .delete id start stop => (editor.delete id start stop).2

end Act

/-- The orders that were given to a document, oldest first. -/
def ordersFor (id : DocumentId) (log : List (DocumentId × Order)) : List Order :=
  (log.filter (fun told => decide (told.1 = id))).map (·.2)

/-- Where the orders to a document leave its switch. -/
def modeOf (start : Bool) (id : DocumentId) (log : List (DocumentId × Order)) : Bool :=
  (ordersFor id log).foldl Order.position start

/-- The last level that a document was given. -/
def levelOf (start : Nat) (id : DocumentId) (log : List (DocumentId × Order)) : Nat :=
  (ordersFor id log).foldl Order.depth start

/-- An editor with the orders that were given to its documents, oldest first. -/
structure Session where
  editor : Editor
  log : List (DocumentId × Order)

namespace Session

variable [ParseEngine]

/-- The session after an act. -/
def step (session : Session) (act : Act) : Session where
  editor := act.perform session.editor
  log := session.log ++ act.heard session.editor

/-- The session after some acts. -/
def run (session : Session) (acts : List Act) : Session :=
  acts.foldl step session

end Session

/-! ## Orders in the log -/

/-- An order to another document tells nothing about a document. -/
theorem ordersFor_append_of_ne {id other : DocumentId} (h : other ≠ id)
    (log : List (DocumentId × Order)) (order : Order) :
    ordersFor id (log ++ [(other, order)]) = ordersFor id log := by
  simp [ordersFor, h]

/-- An order to a document comes after those before it. -/
theorem ordersFor_append_self (id : DocumentId) (log : List (DocumentId × Order)) (order : Order) :
    ordersFor id (log ++ [(id, order)]) = ordersFor id log ++ [order] := by
  simp [ordersFor]

/-- The latest order moves the switch. -/
theorem modeOf_append_self (start : Bool) (id : DocumentId) (log : List (DocumentId × Order))
    (order : Order) :
    modeOf start id (log ++ [(id, order)]) = order.position (modeOf start id log) := by
  simp [modeOf, ordersFor_append_self]

/-- The latest order may change the level. -/
theorem levelOf_append_self (start : Nat) (id : DocumentId) (log : List (DocumentId × Order))
    (order : Order) :
    levelOf start id (log ++ [(id, order)]) = order.depth (levelOf start id log) := by
  simp [levelOf, ordersFor_append_self]

/-- A document that no order was given to is where it started. -/
theorem ordersFor_eq_nil {id : DocumentId} {log : List (DocumentId × Order)}
    (h : ∀ told ∈ log, told.1 ≠ id) : ordersFor id log = [] := by
  have hfilter : log.filter (fun told => decide (told.1 = id)) = [] := by
    rw [List.filter_eq_nil_iff]
    intro told htold
    simpa using h told htold
  rw [ordersFor, hfilter]
  rfl

/-! ## What an act can do to an editor -/

/-- What all documents of an editor rest on. -/
structure EditorBasis where
  config : Config
  mode : Switch
  baseRules : List (Language × Shared RuleSet)
  baseFeatures : Shared FeatureList
  nextDocument : Nat

/-- What all documents of an editor rest on. -/
def basis (editor : Editor) : EditorBasis where
  config := editor.config
  mode := editor.mode
  baseRules := editor.baseRules
  baseFeatures := editor.baseFeatures
  nextDocument := editor.nextDocument

/-- The base rules of a language, if they were needed already. -/
def baseOf (baseRules : List (Language × Shared RuleSet)) (language : Language) :
    Option (Shared RuleSet) :=
  (baseRules.find? (fun entry => decide (entry.1 = language))).map (·.2)

/-- What is common to the documents of an editor. -/
def EditorBasis.common (basis : EditorBasis) : Common :=
  ⟨basis.mode.controller, baseOf basis.baseRules, basis.baseFeatures⟩

/-- The rules are compiled from the built-in base table of the language. -/
def CompiledBase (language : Language) (rules : Shared RuleSet) : Prop :=
  ∃ supply after, Tables.baseRules supply language = .ok (rules.value, after)

/-- Some base rules were added to others: those that were known stay, and new ones are compiled from the
built-in tables. -/
structure Extends (baseRules former : List (Language × Shared RuleSet)) : Prop where
  kept : ∀ language rules, baseOf former language = some rules →
    baseOf baseRules language = some rules
  compiled : ∀ language rules, baseOf baseRules language = some rules →
    baseOf former language = some rules ∨ CompiledBase language rules

/-- Adding nothing is adding. -/
theorem Extends.refl (baseRules : List (Language × Shared RuleSet)) :
    Extends baseRules baseRules :=
  ⟨fun _ _ h => h, fun _ _ h => Or.inl h⟩

/-- What is added at the end counts for languages that were not known before. -/
theorem baseOf_append (baseRules : List (Language × Shared RuleSet)) (language other : Language)
    (rules : Shared RuleSet) :
    baseOf (baseRules ++ [(language, rules)]) other =
      (baseOf baseRules other).or (if language = other then some rules else none) := by
  simp only [baseOf, List.find?_append, Option.map_or]
  by_cases h : language = other <;> simp [h]

/-- What one act does: a change of the editor in which some orders were heard. -/
inductive Turn (before : Editor) : List (DocumentId × Order) → Editor → Prop where
  /-- Nothing but the choice of documents and of the active one. -/
  | quiet {after : Editor} (hbasis : basis after = basis before)
      (hdocuments : ∀ document ∈ after.shelf.documents, document ∈ before.shelf.documents) :
      Turn before [] after
  /-- Base rules were compiled for a document that was not opened after all. -/
  | prepared {after : Editor} (baseRules : List (Language × Shared RuleSet))
      (hbasis : basis after = { basis before with baseRules })
      (hextends : Extends baseRules before.baseRules)
      (hdocuments : after.shelf.documents = before.shelf.documents) : Turn before [] after
  /-- One document was edited. -/
  | edited {after : Editor} {document : Document} (edited : Document)
      (hmem : document ∈ before.shelf.documents) (hid : edited.id = document.id)
      (haccord : ∀ common on level, Accords common on level document →
        Accords common on level edited)
      (hbasis : basis after = basis before)
      (hdocuments : ∀ other ∈ after.shelf.documents,
        other = edited ∨ other ∈ before.shelf.documents) :
      Turn before [] after
  /-- One document was given an order. -/
  | ordered {after : Editor} {document : Document} {order : Order} (supply : Supply)
      (hmem : document ∈ before.shelf.documents)
      (hbasis : basis after = basis before)
      (hdocuments : ∀ other ∈ after.shelf.documents,
        other = (order.obey before.mode supply document).deliver.2 ∨
          other ∈ before.shelf.documents ∧ other.id ≠ document.id) :
      Turn before [(document.id, order)] after
  /-- One document was opened. -/
  | opened {after : Editor} (document : Document) (baseRules : List (Language × Shared RuleSet))
      (hid : document.id = before.freshId)
      (haccord : Accords (basis after).common before.config.enableByDefault before.config.level
        document)
      (hbasis : basis after =
        { basis before with baseRules, nextDocument := before.nextDocument + 1 })
      (hextends : Extends baseRules before.baseRules)
      (hdocuments : ∀ other ∈ after.shelf.documents,
        other = document ∨ other ∈ before.shelf.documents) :
      Turn before [] after

/-- A document that is found on a shelf lies there, under the identity that was looked for. -/
theorem mem_of_get? {shelf : Shelf} {id : DocumentId} {document : Document}
    (h : shelf.get? id = some document) : document ∈ shelf.documents ∧ document.id = id := by
  unfold Shelf.get? at h
  exact ⟨List.mem_of_find?_eq_some h, by simpa using List.find?_some h⟩

/-- After an addition a shelf holds the new document and some of those before. -/
theorem mem_add {shelf : Shelf} {document other : Document}
    (h : other ∈ (shelf.add document).documents) :
    other = document ∨ other ∈ shelf.documents := by
  rcases List.mem_append.mp h with hother | hother
  · exact Or.inr (List.mem_filter.mp hother).1
  · exact Or.inl (List.mem_singleton.mp hother)

/-- After a replacement a shelf holds the new document and those of other identities. -/
theorem mem_replace {shelf : Shelf} {document other : Document}
    (h : other ∈ (shelf.replace document).documents) :
    other = document ∨ other ∈ shelf.documents ∧ other.id ≠ document.id := by
  unfold Shelf.replace at h
  obtain ⟨former, hformer, rfl⟩ := List.mem_map.mp h
  split
  · exact Or.inl rfl
  · next hid => exact Or.inr ⟨hformer, hid⟩

/-- An order leaves the body of a document alone. -/
theorem Order.body_obey (switch : Switch) (supply : Supply) (document : Document) (order : Order) :
    (order.obey switch supply document).body = document.body := by
  cases order with
  | turn on => exact switch.body_set supply on document
  | turnOver => exact switch.body_set supply _ document
  | setLevel level => exact document.body_setLevel level

/-- An order keeps the accord of a document and moves its switch or its level. -/
theorem Order.accords_obey {common : Common} {on : Bool} {level : Nat} {document : Document}
    (h : Accords common on level document) (switch : Switch) (supply : Supply)
    (hswitch : switch.controller = common.controller) (order : Order) :
    Accords common (order.position on) (order.depth level)
      (order.obey switch supply document).deliver.2 := by
  apply Accords.deliver
  cases order with
  | turn next => exact h.set switch supply hswitch next
  | turnOver =>
    have hset := h.set switch supply hswitch (!document.overlay.enabled)
    rw [h.enabled] at hset
    have hobey : turnOver.obey switch supply document =
        (switch.set supply (!document.overlay.enabled) document).1 := rfl
    rw [hobey, h.enabled]
    exact hset
  | setLevel next => exact h.setLevel next

namespace Act

/-- An order to a document that is not open changes nothing. -/
theorem give_of_absent {editor : Editor} {id : DocumentId} (h : editor.shelf.get? id = none)
    (order : Order) : order.give editor id = editor := by
  cases order with
  | turn on => simp [Order.give, Editor.setOverlay, h]
  | turnOver => simp [Order.give, Editor.toggleOverlay, h]
  | setLevel level => simp [Order.give, Editor.setLevel, h]

/-- An order to an open document puts the document that obeyed in its place. -/
theorem give_of_present {editor : Editor} {id : DocumentId} {document : Document}
    (h : editor.shelf.get? id = some document) (order : Order) :
    basis (order.give editor id) = basis editor ∧
      ∃ supply, (order.give editor id).shelf =
        editor.shelf.replace (order.obey editor.mode supply document).deliver.2 := by
  cases order with
  | turn on =>
    simp only [Order.give, Editor.setOverlay, h]
    exact ⟨rfl, editor.supply, rfl⟩
  | turnOver =>
    simp only [Order.give, Editor.toggleOverlay, h]
    exact ⟨rfl, editor.supply, rfl⟩
  | setLevel level =>
    simp only [Order.give, Editor.setLevel, h]
    split <;> exact ⟨rfl, editor.supply, rfl⟩

/-- What an order to a document does. -/
theorem turn_give (editor : Editor) (id : DocumentId) (order : Order) :
    Turn editor ([(id, order)].filter (fun told => (editor.shelf.get? told.1).isSome))
      (order.give editor id) := by
  cases h : editor.shelf.get? id with
  | none =>
    rw [give_of_absent h]
    simp only [List.filter_cons, h, Option.isSome_none, Bool.false_eq_true, if_false,
      List.filter_nil]
    exact .quiet rfl (fun _ hmem => hmem)
  | some document =>
    obtain ⟨hmem, rfl⟩ := mem_of_get? h
    obtain ⟨hbasis, supply, hshelf⟩ := give_of_present h order
    simp only [List.filter_cons, h, Option.isSome_some, if_true, List.filter_nil]
    refine .ordered supply hmem hbasis ?_
    intro other hother
    rw [hshelf] at hother
    have hid : (order.obey editor.mode supply document).deliver.2.id = document.id :=
      congrArg DocumentBody.id (order.body_obey editor.mode supply document)
    rw [← hid]
    exact mem_replace hother

/-- A built-in command gives its order to the active document, if there is one. -/
theorem execute_command_eq (registry : CommandRegistry) (order : Order) (editor : Editor) :
    registry.execute order.command editor =
      match editor.shelf.active with
      | none => (.error .noActiveDocument, editor)
      | some id => order.outcome editor id := by
  cases order with
  | turn on =>
    cases on <;>
      · simp only [Order.command, CommandRegistry.execute, CommandRegistry.onActive,
          Editor.activeDocument]
        cases editor.shelf.active <;> rfl
  | turnOver =>
    simp only [Order.command, CommandRegistry.execute, CommandRegistry.onActive,
      Editor.activeDocument]
    cases editor.shelf.active <;> rfl
  | setLevel level =>
    simp only [Order.command, CommandRegistry.execute, CommandRegistry.onActive,
      Editor.activeDocument]
    cases editor.shelf.active <;> rfl

/-- A built-in command gives its order to the active document. -/
theorem execute_command (registry : CommandRegistry) (order : Order) (editor : Editor) :
    (registry.execute order.command editor).2 =
      match editor.shelf.active with
      | none => editor
      | some id => order.give editor id := by
  rw [execute_command_eq]
  cases editor.shelf.active with
  | none => rfl
  | some id => exact order.outcome_snd editor id

/-- What a built-in command does. -/
theorem turn_command (editor : Editor) (registry : CommandRegistry) (order : Order) :
    Turn editor
      ((editor.shelf.active.toList.map (·, order)).filter
        (fun told => (editor.shelf.get? told.1).isSome))
      (registry.execute order.command editor).2 := by
  rw [execute_command]
  cases editor.shelf.active with
  | none => exact .quiet rfl (fun _ hmem => hmem)
  | some id => exact turn_give editor id order

/-- What closing a document does. -/
theorem turn_close (editor : Editor) (id : DocumentId) :
    Turn editor [] (editor.closeDocument id).2 := by
  unfold Editor.closeDocument
  split
  · exact .quiet rfl (fun _ hmem => hmem)
  · next document shelf hclose =>
    refine .quiet rfl ?_
    intro other hother
    simp only [Shelf.close, Option.map_eq_some_iff] at hclose
    obtain ⟨_, -, hshelf⟩ := hclose
    cases hshelf
    exact (List.mem_filter.mp hother).1

/-- What a change of one document does, when it is an edit. -/
theorem turn_onDocument [ParseEngine] (editor : Editor) (id : DocumentId)
    (change : Document → Document.Outcome Unit)
    (hedit : ∀ document : Document, document.Edited (change document)) :
    Turn editor [] (editor.onDocument id change).2 := by
  unfold Editor.onDocument
  split
  · exact .quiet rfl (fun _ hmem => hmem)
  · next document hget =>
    obtain ⟨hmem, -⟩ := mem_of_get? hget
    refine .edited (change document).2.deliver.2 hmem (hedit document).id_eq
      (fun common on level h => (h.edited (hedit document)).deliver) rfl ?_
    intro other hother
    exact (mem_replace hother).imp_right And.left

end Act

/-! ## Opening documents -/

/-- The base rules of a language are those that are known already, or else they are compiled and known
from then on; if that fails nothing changes. -/
theorem rulesFor_cases (editor : Editor) (language : Language) :
    (∃ cause, editor.rulesFor language = (.error cause, editor)) ∨
    ∃ rules baseRules supply,
      editor.rulesFor language = (.ok rules, { editor with baseRules, supply }) ∧
      baseOf baseRules language = some rules ∧ Extends baseRules editor.baseRules := by
  unfold Editor.rulesFor
  cases hfind : editor.baseRules.find? (fun entry => decide (entry.1 = language)) with
  | some entry =>
    have hknown : baseOf editor.baseRules language = some entry.2 := by simp [baseOf, hfind]
    exact Or.inr ⟨entry.2, editor.baseRules, editor.supply, rfl, hknown, .refl _⟩
  | none =>
    have hunknown : baseOf editor.baseRules language = none := by simp [baseOf, hfind]
    cases hcompile : Tables.baseRules editor.supply language with
    | error cause => exact Or.inl ⟨_, rfl⟩
    | ok compiled =>
      refine Or.inr ⟨_, _, _, rfl, ?_, ?_, ?_⟩
      · rw [baseOf_append, hunknown, if_pos rfl]
        rfl
      · intro other known h
        rw [baseOf_append, h]
        rfl
      · intro other known h
        rw [baseOf_append, Option.or_eq_some_iff] at h
        rcases h with h | ⟨-, h⟩
        · exact Or.inl h
        · split at h
          · next hother =>
            cases h
            subst hother
            exact Or.inr ⟨_, _, hcompile⟩
          · cases h

/-- A document on its way to the shelf is switched on if the settings say so. -/
theorem shelve_eq (editor : Editor) (document : Document) :
    basis (editor.shelve document).2 =
        { basis editor with nextDocument := editor.nextDocument + 1 } ∧
      ∃ supply, (editor.shelve document).2.shelf = editor.shelf.add
        (if editor.config.enableByDefault then (editor.mode.set supply true document).1
          else document).deliver.2 := by
  unfold Editor.shelve
  cases editor.config.enableByDefault with
  | true => exact ⟨rfl, editor.supply, rfl⟩
  | false => exact ⟨rfl, editor.supply, rfl⟩

/-- A document that accords with its switch off accords on the shelf, where the settings have moved its
switch. -/
theorem turn_shelve (before editor : Editor) (document : Document)
    (baseRules : List (Language × Shared RuleSet)) (hid : document.id = before.freshId)
    (hbasis : basis editor = { basis before with baseRules })
    (hdocuments : editor.shelf.documents = before.shelf.documents)
    (hextends : Extends baseRules before.baseRules)
    (haccord : Accords (basis editor).common false before.config.level document) :
    Turn before [] (editor.shelve document).2 := by
  obtain ⟨hshelved, supply, hshelf⟩ := shelve_eq editor document
  have hconfig : editor.config = before.config := congrArg EditorBasis.config hbasis
  have hnext : editor.nextDocument = before.nextDocument :=
    congrArg EditorBasis.nextDocument hbasis
  have hcommon : (basis (editor.shelve document).2).common = (basis editor).common := by
    rw [hshelved]
    rfl
  let settled := if editor.config.enableByDefault then (editor.mode.set supply true document).1
    else document
  have hsettled : Accords (basis editor).common before.config.enableByDefault before.config.level
      settled.deliver.2 := by
    apply Accords.deliver
    simp only [settled, hconfig]
    cases before.config.enableByDefault with
    | true => exact haccord.set editor.mode supply rfl true
    | false => exact haccord
  have hsettled_id : settled.deliver.2.id = document.id := by
    have hbody := congrArg DocumentBody.id (editor.mode.body_set supply true document)
    simp only [settled]
    split
    · exact hbody
    · rfl
  refine .opened settled.deliver.2 baseRules (hsettled_id.trans hid)
    (hcommon ▸ hsettled) ?_ hextends ?_
  · rw [hshelved, hbasis, hnext]
  · intro other hother
    rw [hshelf] at hother
    rcases mem_add hother with hother | hother
    · exact Or.inl hother
    · exact Or.inr (hdocuments ▸ hother)

/-- What adding a new document with a language comes to. Its base rules cannot be had and nothing changes,
or its text is given up and it is not opened, or it is put on the shelf with highlighting on. -/
theorem addDocument_cases [ParseEngine] (editor : Editor) (id : DocumentId) (buffer : Buffer)
    (name : String) (language : Language) :
    let document := Document.ofBuffer id buffer name (some language)
    (∃ cause, editor.rulesFor language = (.error cause, editor) ∧
      editor.addDocument document = (.error cause, editor)) ∨
    ∃ rules baseRules supply,
      editor.rulesFor language = (.ok rules, { editor with baseRules, supply }) ∧
      baseOf baseRules language = some rules ∧ Extends baseRules editor.baseRules ∧
      ((ParseEngine.first? language buffer.chars = none ∧
          editor.addDocument document =
            (.error (.language .notParsed), { editor with baseRules, supply })) ∨
        ∃ tree, ParseEngine.first? language buffer.chars = some tree ∧
          editor.addDocument document =
            (.ok (Editor.shelve { editor with baseRules, supply } (document.listen.lit
                ⟨language, some tree, []⟩ rules editor.baseFeatures editor.config.level)).1,
              (Editor.shelve { editor with baseRules, supply } (document.listen.lit
                ⟨language, some tree, []⟩ rules editor.baseFeatures editor.config.level)).2)) := by
  intro document
  have hlanguage : document.listen.language = some language := rfl
  rcases rulesFor_cases editor language with
    ⟨cause, hrules⟩ | ⟨rules, baseRules, supply, hrules, hbase, hextends⟩
  · refine Or.inl ⟨cause, hrules, ?_⟩
    simp only [Editor.addDocument, hlanguage, hrules]
  · refine Or.inr ⟨rules, baseRules, supply, hrules, hbase, hextends, ?_⟩
    rcases document.listen.enableHighlighting_cases rules editor.baseFeatures editor.config.level with
      ⟨hnone, -⟩ | ⟨other, hother, hlit⟩
    · cases hnone
    · cases hother
      rcases hlit with ⟨hfirst, hlit⟩ | ⟨tree, hfirst, hlit⟩
      · refine Or.inl ⟨hfirst, ?_⟩
        simp only [Editor.addDocument, hlanguage, hrules, hlit]
        rfl
      · refine Or.inr ⟨tree, hfirst, ?_⟩
        simp only [Editor.addDocument, hlanguage, hrules, hlit]

/-- What adding a new document does. -/
theorem turn_addDocument [ParseEngine] (editor : Editor) (buffer : Buffer) (name : String)
    (language : Option Language) :
    Turn editor []
      (editor.addDocument (Document.ofBuffer editor.freshId buffer name language)).2 := by
  cases language with
  | none =>
    have haccord : Accords (basis editor).common false editor.config.level
        (Document.ofBuffer editor.freshId buffer name none).listen :=
      (Accords.ofBuffer_none _ _ editor.freshId buffer name).of_alike rfl Iff.rfl rfl rfl
    exact turn_shelve editor editor _ editor.baseRules rfl rfl rfl (.refl _) haccord
  | some language =>
    rcases addDocument_cases editor editor.freshId buffer name language with
      ⟨cause, -, h⟩ | ⟨rules, baseRules, supply, -, hbase, hextends, ⟨-, h⟩ | ⟨tree, -, h⟩⟩
    · rw [h]
      exact .quiet rfl (fun _ hmem => hmem)
    · rw [h]
      exact .prepared baseRules rfl hextends rfl
    · rw [h]
      exact turn_shelve editor { editor with baseRules, supply } _ baseRules rfl rfl rfl hextends
        (Accords.ofBuffer_some _ _ _ buffer name hbase _)

/-- What opening a file does. -/
theorem turn_openFile [ParseEngine] (editor : Editor) (disk : Disk) (path : String) :
    Turn editor [] (editor.openFile disk path).2 := by
  unfold Editor.openFile
  split
  · next id _ =>
    refine .quiet rfl ?_
    intro document hmem
    unfold Shelf.activate at hmem
    split at hmem <;> exact hmem
  · unfold Document.ofFile
    cases Buffer.ofFile disk path with
    | error cause => exact .quiet rfl (fun _ hmem => hmem)
    | ok buffer => exact turn_addDocument editor buffer _ _

/-- What an act does. -/
theorem Act.turn [ParseEngine] (editor : Editor) (act : Act) :
    Turn editor (act.heard editor) (act.perform editor) := by
  cases act with
  | openFile disk path => exact turn_openFile editor disk path
  | openText text language => exact turn_addDocument editor (Buffer.ofText text) _ language
  | close id => exact turn_close editor id
  | give id order => exact turn_give editor id order
  | command registry order => exact turn_command editor registry order
  | insert id index text =>
    exact turn_onDocument editor id _ (fun document => document.edited_insert index text)
  | delete id start stop =>
    exact turn_onDocument editor id _ (fun document => document.edited_delete start stop)

/-! ## What holds in every session -/

/-- What holds in every session that began with an editor: the settings, the switch and the base
features stay, identities are handed out once, base rules are compiled from the built-in tables, and
every document accords with what its orders come to. -/
structure Kept (start : Editor) (session : Session) : Prop where
  config : session.editor.config = start.config
  mode : session.editor.mode = start.mode
  baseFeatures : session.editor.baseFeatures = start.baseFeatures
  fresh : ∀ document ∈ session.editor.shelf.documents,
    document.id.number < session.editor.nextDocument
  unheard : ∀ told ∈ session.log, told.1.number < session.editor.nextDocument
  compiled : ∀ language rules, baseOf session.editor.baseRules language = some rules →
    CompiledBase language rules
  accords : ∀ document ∈ session.editor.shelf.documents,
    Accords (basis session.editor).common
      (modeOf start.config.enableByDefault document.id session.log)
      (levelOf start.config.level document.id session.log) document

/-- A turn adds base rules at most. -/
theorem Turn.extends {before after : Editor} {heard : List (DocumentId × Order)}
    (h : Turn before heard after) : Extends after.baseRules before.baseRules := by
  have hsame : basis after = basis before → Extends after.baseRules before.baseRules := by
    intro hbasis
    have hrules : after.baseRules = before.baseRules := congrArg EditorBasis.baseRules hbasis
    rw [hrules]
    exact .refl _
  cases h with
  | quiet hbasis _ => exact hsame hbasis
  | prepared baseRules hbasis hextends _ =>
    have hrules : after.baseRules = baseRules := congrArg EditorBasis.baseRules hbasis
    rw [hrules]
    exact hextends
  | edited _ _ _ _ hbasis _ => exact hsame hbasis
  | ordered _ _ hbasis _ => exact hsame hbasis
  | opened _ baseRules _ _ hbasis hextends _ =>
    have hrules : after.baseRules = baseRules := congrArg EditorBasis.baseRules hbasis
    rw [hrules]
    exact hextends

/-- A turn keeps the settings. -/
theorem Turn.config_eq {before after : Editor} {heard : List (DocumentId × Order)}
    (h : Turn before heard after) : after.config = before.config := by
  cases h with
  | quiet hbasis _ => exact congrArg EditorBasis.config hbasis
  | prepared _ hbasis _ _ => exact congrArg EditorBasis.config hbasis
  | edited _ _ _ _ hbasis _ => exact congrArg EditorBasis.config hbasis
  | ordered _ _ hbasis _ => exact congrArg EditorBasis.config hbasis
  | opened _ _ _ _ hbasis _ _ => exact congrArg EditorBasis.config hbasis

namespace Kept

variable {start : Editor} {session : Session}

/-- A turn that adds base rules at most keeps all but the accord of the documents, which is left to be
shown. -/
theorem of_basis_eq (h : Kept start session) {after : Session}
    {baseRules : List (Language × Shared RuleSet)}
    (hbasis : basis after.editor = { basis session.editor with baseRules })
    (hextends : Extends baseRules session.editor.baseRules)
    (hlog : ∀ told ∈ after.log, told.1.number < session.editor.nextDocument)
    (hfresh : ∀ document ∈ after.editor.shelf.documents,
      document.id.number < session.editor.nextDocument)
    (haccords : ∀ document ∈ after.editor.shelf.documents,
      Accords (basis session.editor).common
        (modeOf start.config.enableByDefault document.id after.log)
        (levelOf start.config.level document.id after.log) document) :
    Kept start after where
  config := (congrArg EditorBasis.config hbasis).trans h.config
  mode := (congrArg EditorBasis.mode hbasis).trans h.mode
  baseFeatures := (congrArg EditorBasis.baseFeatures hbasis).trans h.baseFeatures
  fresh := by
    have hnext : after.editor.nextDocument = session.editor.nextDocument :=
      congrArg EditorBasis.nextDocument hbasis
    rw [hnext]
    exact hfresh
  unheard := by
    have hnext : after.editor.nextDocument = session.editor.nextDocument :=
      congrArg EditorBasis.nextDocument hbasis
    rw [hnext]
    exact hlog
  compiled := by
    have hrules : after.editor.baseRules = baseRules := congrArg EditorBasis.baseRules hbasis
    rw [hrules]
    intro language rules hknown
    rcases hextends.compiled language rules hknown with hformer | hcompiled
    · exact h.compiled language rules hformer
    · exact hcompiled
  accords := by
    have hcommon : (basis after.editor).common =
        { (basis session.editor).common with base := baseOf baseRules } := by
      rw [hbasis]
      rfl
    rw [hcommon]
    exact fun document hmem => (haccords document hmem).of_base hextends.kept

/-- Every turn keeps what holds in a session. -/
theorem turn (h : Kept start session) {heard : List (DocumentId × Order)} {after : Editor}
    (hturn : Turn session.editor heard after) : Kept start ⟨after, session.log ++ heard⟩ := by
  have hadded := hturn.extends
  cases hturn with
  | quiet hbasis hdocuments =>
    rw [List.append_nil]
    exact h.of_basis_eq hbasis (.refl _) h.unheard
      (fun document hmem => h.fresh _ (hdocuments _ hmem))
      (fun document hmem => h.accords _ (hdocuments _ hmem))
  | prepared baseRules hbasis hextends hdocuments =>
    rw [List.append_nil]
    exact h.of_basis_eq hbasis hextends h.unheard
      (fun document hmem => h.fresh _ (hdocuments ▸ hmem))
      (fun document hmem => h.accords _ (hdocuments ▸ hmem))
  | @edited _ document edited hmem hid haccord hbasis hdocuments =>
    rw [List.append_nil]
    refine h.of_basis_eq hbasis (.refl _) h.unheard ?_ ?_
    · intro other hother
      rcases hdocuments other hother with rfl | hother
      · exact hid ▸ h.fresh document hmem
      · exact h.fresh other hother
    · intro other hother
      rcases hdocuments other hother with rfl | hother
      · exact haccord _ _ _ (hid ▸ h.accords document hmem)
      · exact h.accords other hother
  | @ordered _ document order supply hmem hbasis hdocuments =>
    have hid : (order.obey session.editor.mode supply document).deliver.2.id = document.id :=
      congrArg DocumentBody.id (order.body_obey session.editor.mode supply document)
    refine h.of_basis_eq hbasis (.refl _) ?_ ?_ ?_
    · intro told htold
      rcases List.mem_append.mp htold with htold | htold
      · exact h.unheard told htold
      · rw [List.mem_singleton.mp htold]
        exact h.fresh document hmem
    · intro other hother
      rcases hdocuments other hother with rfl | ⟨hother, -⟩
      · exact hid ▸ h.fresh document hmem
      · exact h.fresh other hother
    · intro other hother
      rcases hdocuments other hother with rfl | ⟨hother, hne⟩
      · rw [hid, modeOf_append_self, levelOf_append_self]
        exact order.accords_obey (h.accords document hmem) session.editor.mode supply rfl
      · -- the order was not addressed to this document
        have hsame := ordersFor_append_of_ne (Ne.symm hne) session.log order
        have haccords := h.accords other hother
        simp only [modeOf, levelOf, hsame] at haccords ⊢
        exact haccords
  | opened document baseRules hid haccord hbasis hextends hdocuments =>
    have hnext : after.nextDocument = session.editor.nextDocument + 1 :=
      congrArg EditorBasis.nextDocument hbasis
    rw [List.append_nil]
    refine ⟨(congrArg EditorBasis.config hbasis).trans h.config,
      (congrArg EditorBasis.mode hbasis).trans h.mode,
      (congrArg EditorBasis.baseFeatures hbasis).trans h.baseFeatures, ?_, ?_, ?_, ?_⟩
    · intro other hother
      rw [hnext]
      rcases hdocuments other hother with rfl | hother
      · rw [hid]
        exact Nat.lt_succ_self _
      · exact Nat.lt_succ_of_lt (h.fresh other hother)
    · intro told htold
      rw [hnext]
      exact Nat.lt_succ_of_lt (h.unheard told htold)
    · intro language rules hknown
      rcases hadded.compiled language rules hknown with hformer | hcompiled
      · exact h.compiled language rules hformer
      · exact hcompiled
    · intro other hother
      rcases hdocuments other hother with rfl | hother
      · have hnone : ordersFor other.id session.log = [] := by
          apply ordersFor_eq_nil
          intro told htold heq
          have hlt := h.unheard told htold
          rw [heq, hid] at hlt
          exact Nat.lt_irrefl _ hlt
        rw [h.config] at haccord
        simp only [modeOf, levelOf, hnone]
        exact haccord
      · have hcommon : (basis after).common =
            { (basis session.editor).common with base := baseOf baseRules } := by
          rw [hbasis]
          rfl
        rw [hcommon]
        exact (h.accords other hother).of_base hextends.kept

/-- Every run keeps what holds in a session. -/
theorem run [ParseEngine] (h : Kept start session) (acts : List Act) : Kept start (session.run acts) := by
  induction acts generalizing session with
  | nil => exact h
  | cons act acts ih => exact ih (h.turn (act.turn session.editor))

/-- An editor that was just built holds nothing yet. -/
theorem ofConfig {config : Config} {compiler : Compiler} {supply : Supply}
    (h : Editor.ofConfig config compiler supply = .ok start) :
    start.config = config ∧ start.mode.controller.feature = ⟨config.feature⟩ ∧
      Kept start ⟨start, []⟩ := by
  unfold Editor.ofConfig at h
  split at h
  · cases h
  · next registry after hbuild =>
    cases h
    refine ⟨rfl, rfl, rfl, rfl, rfl, ?_, ?_, ?_, ?_⟩
    · intro document hmem
      cases hmem
    · intro told htold
      cases htold
    · intro language rules hknown
      cases hknown
    · intro document hmem
      cases hmem

end Kept

/-- Base rules that are known in a session stay known. -/
theorem baseOf_run [ParseEngine] {session : Session} {language : Language} {rules : Shared RuleSet}
    (h : baseOf session.editor.baseRules language = some rules) (acts : List Act) :
    baseOf (session.run acts).editor.baseRules language = some rules := by
  induction acts generalizing session with
  | nil => exact h
  | cons act acts ih => exact ih ((act.turn session.editor).extends.kept language rules h)

/-- What a document shows is told by its language, by where the orders to it leave its switch and its
level, and by what its editor began with.
For every editor of some settings and every run there are base rules of languages, compiled from the
built-in tables, such that at every moment of the run each open document is as follows.
Without a language it has no highlighting, no parser and empty slots.
With a language it holds a snapshot exactly when its switch is on and the language is registered.
Without a snapshot its slots are empty and the base rules and base features are live, the very same ones
in all documents of the language; with a snapshot its slots hold just these, and live are the base rules
with the overlay behind them and the base features with the overlay's feature on top. In both cases the
level is the last one that was set, and the enabled features are those of the live list at that level. -/
theorem editor_history [ParseEngine] (config : Config) (compiler : Compiler) (supply : Supply)
    (start : Editor) (h : Editor.ofConfig config compiler supply = .ok start) (acts : List Act) :
    ∃ base : Language → Shared RuleSet, ∀ before, before <+: acts →
      let session := Session.run ⟨start, []⟩ before
      ∀ document ∈ session.editor.shelf.documents,
        let on := modeOf config.enableByDefault document.id session.log
        let level := levelOf config.level document.id session.log
        Switch.isOn document = on ∧
        (document.language = none →
          document.highlight = none ∧ document.parsers = [] ∧
            document.overlay.isClear = true) ∧
        ∀ language, document.language = some language →
          CompiledBase language (base language) ∧
          (document.overlay.hasSnapshot = true ↔
            on = true ∧ (start.mode.controller.registry.lookup language).isSome = true) ∧
          ∃ state, document.highlight = some state ∧ state.level = level ∧
            state.effective = state.features.value.effective level ∧
            (document.overlay.hasSnapshot = false →
              document.overlay.isClear = true ∧
              state.rules = base language ∧ state.features = start.baseFeatures) ∧
            (document.overlay.hasSnapshot = true →
              document.overlay.savedRules = some (base language) ∧
              document.overlay.savedFeatures = some start.baseFeatures ∧
              ∃ overlay, start.mode.controller.registry.lookup language = some overlay ∧
                state.rules.value.rules = (base language).value.rules ++ overlay.value.rules ∧
                state.features.value =
                  start.baseFeatures.value.withTopPriority ⟨config.feature⟩) := by
  obtain ⟨hconfig, hfeature, hstart⟩ := Kept.ofConfig h
  let last := Session.run ⟨start, []⟩ acts
  let base : Language → Shared RuleSet := fun language =>
    (baseOf last.editor.baseRules language).getD ⟨0, .empty⟩
  refine ⟨base, ?_⟩
  rintro before ⟨rest, hrest⟩ session document hmem on level
  have hkept : Kept start session := hstart.run before
  have hlast : last = session.run rest := by
    simp only [last, session, Session.run, ← hrest, List.foldl_append]
  have haccords := hkept.accords document hmem
  rw [hconfig] at haccords
  refine ⟨haccords.enabled, haccords.of_language_eq_none, ?_⟩
  intro language hlanguage
  obtain ⟨rules, hknown, hdocument⟩ := haccords.of_language_eq_some hlanguage
  have hbase : base language = rules := by
    simp only [base, hlast]
    rw [baseOf_run hknown rest]
    rfl
  have hmode : (basis session.editor).common.controller = start.mode.controller :=
    congrArg Switch.controller hkept.mode
  have hfeatures : (basis session.editor).common.features = start.baseFeatures :=
    hkept.baseFeatures
  rw [hmode, hfeatures, hfeature] at hdocument
  rw [hbase]
  exact ⟨hkept.compiled language rules hknown, hdocument⟩

/-! ## A run that ends with a dimmed document -/

/-- A compiler that takes every pattern and makes queries that match nothing. -/
def idleCompiler : Compiler := fun _ _ => .ok ⟨⟨[], []⟩, 0⟩

/-- A document in JSON is dimmed and then shown at the first level alone. -/
def dimmedRun : List Act :=
  [.openText "1" (some .json), .give ⟨0⟩ .turnOver, .command .empty (.setLevel 1)]

/-- The document at the end of the run holds base rules and base features aside and shows one level. -/
theorem editor_history_dimmed :
    ∃ start, Editor.ofConfig .default idleCompiler .initial = .ok start ∧
      let documents := (Session.run ⟨start, []⟩ dimmedRun).editor.shelf.documents
      documents.map (fun document => (document.id, document.language)) = [(⟨0⟩, some .json)] ∧
      ∃ base : Language → Shared RuleSet, ∀ document ∈ documents,
        document.overlay.savedRules = some (base .json) ∧
        document.overlay.savedFeatures = some start.baseFeatures ∧
        ∃ state, document.highlight = some state ∧ state.level = 1 := by
  refine ⟨_, rfl, ?_⟩
  intro documents
  have hshelf : documents.map (fun document => (document.id, document.language)) =
      [(⟨0⟩, some .json)] := by decide +kernel
  refine ⟨hshelf, ?_⟩
  obtain ⟨base, hbase⟩ := editor_history .default idleCompiler .initial _ rfl dimmedRun
  refine ⟨base, ?_⟩
  intro document hmem
  have hentry := List.mem_map_of_mem (f := fun document => (document.id, document.language)) hmem
  rw [hshelf, List.mem_singleton, Prod.mk.injEq] at hentry
  obtain ⟨hid, hlanguage⟩ := hentry
  obtain ⟨-, -, hdocument⟩ := hbase dimmedRun (List.prefix_refl _) document hmem
  obtain ⟨-, hsnapshot, state, hstate, hlevel, -, -, hdimmed⟩ := hdocument .json hlanguage
  rw [hid] at hsnapshot hlevel
  obtain ⟨hrules, hfeatures, -⟩ := hdimmed (hsnapshot.mpr (by decide +kernel))
  exact ⟨hrules, hfeatures, state, hstate, hlevel.trans (by decide +kernel)⟩

end Dimming.Proofs.EditorHistory
