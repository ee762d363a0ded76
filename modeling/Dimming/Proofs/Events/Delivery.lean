import Dimming.Event
import Mathlib.Data.List.Induction
import Mathlib.Data.List.ReduceOption

/-!
# What the handlers of a bus hear

A ledger is kept of the uses of a bus: the events that were emitted, and for every handler the number of
its next unread event. The law of delivery is the rule by which the ledger counts. What the bus answers
is shown to be what the ledger says, for every history of uses, and the rest follows from the ledger.
-/

set_option autoImplicit false

namespace Dimming

namespace Bus

variable {bus : Bus} {next handler : Nat}

/-! ## One wait -/

/-- An unread event that is kept is heard at once. -/
theorem await_of_kept (h : bus.sent.size ≤ next + capacity) {event : Event}
    (hevent : bus.sent[next]? = some event) : bus.await next = ([], .event event, next + 1) := by
  have hreceive : bus.receive next = (.event event, next + 1) := by
    unfold receive
    rw [if_neg (Nat.not_lt.mpr h), hevent]
  rw [await]
  split <;> simp_all

/-- Where all is read there is nothing to hear, and nothing more to come once all senders are gone. -/
theorem await_of_size_le (h : bus.sent.size ≤ next) :
    bus.await next = ([], if bus.senders = 0 then .closed else .pending, next) := by
  have hreceive : bus.receive next = (if bus.senders = 0 then .closed else .empty, next) := by
    unfold receive
    rw [if_neg (by omega), Array.getElem?_eq_none h]
  by_cases hsenders : bus.senders = 0
  · rw [if_pos hsenders] at hreceive ⊢
    rw [await]
    split <;> simp_all
  · rw [if_neg hsenders] at hreceive ⊢
    rw [await]
    split <;> simp_all

/-- A handler that has fallen behind gets one report of it and then the oldest event that is left. -/
theorem await_of_lagging (h : next + capacity < bus.sent.size) {event : Event}
    (hevent : bus.sent[bus.oldest]? = some event) :
    bus.await next = ([bus.oldest - next], .event event, bus.oldest + 1) := by
  have hreceive : bus.receive next = (.lagged (bus.oldest - next), bus.oldest) := if_pos h
  have hkept : bus.sent.size ≤ bus.oldest + capacity := by
    unfold oldest
    omega
  rw [await]
  split
  · next asked =>
    rw [hreceive] at asked
    cases asked
    rw [await_of_kept hkept hevent]
  all_goals simp_all

/-- The next number that a handler hears: its next unread one, or the oldest that is left. -/
def heardNext (bus : Bus) (next : Nat) : Nat := max next bus.oldest

/-- Where something is unread there is an event to hear. -/
theorem heardNext_lt (h : next < bus.sent.size) : bus.heardNext next < bus.sent.size := by
  unfold heardNext oldest capacity
  omega

/-- The oldest unread event that is left is heard; if it was not the oldest unread one, the lag is told. -/
theorem await_of_pending {event : Event} (hevent : bus.sent[bus.heardNext next]? = some event) :
    bus.await next = (if next + capacity < bus.sent.size then [bus.oldest - next] else [],
      .event event, bus.heardNext next + 1) := by
  by_cases hlag : next + capacity < bus.sent.size
  · have holdest : bus.heardNext next = bus.oldest := by
      unfold heardNext oldest
      omega
    rw [holdest] at hevent ⊢
    rw [if_pos hlag]
    exact await_of_lagging hlag hevent
  · have hnext : bus.heardNext next = next := by
      unfold heardNext oldest
      omega
    rw [hnext] at hevent ⊢
    rw [if_neg hlag]
    exact await_of_kept (Nat.not_lt.mp hlag) hevent

/-- One wait reports at most one lag. -/
theorem reports_await (h : next ≤ bus.sent.size) :
    (bus.await next).1
      = if next + capacity < bus.sent.size then [bus.oldest - next] else [] := by
  obtain heq | hlt := Nat.eq_or_lt_of_le h
  · have hkept : ¬ next + capacity < bus.sent.size := by omega
    rw [await_of_size_le (Nat.le_of_eq heq.symm), if_neg hkept]
  · rw [await_of_pending (Array.getElem?_eq_getElem (heardNext_lt hlt))]

/-- A handler that has read everything gets nothing. -/
theorem tryNext_of_all_read (hhandler : bus.handlers[handler]? = some (some next))
    (hnext : next = bus.sent.size) : bus.tryNext handler = (none, bus) := by
  have hset : bus.handlers.set handler (some next) = bus.handlers := by
    obtain ⟨hlt, hget⟩ := List.getElem?_eq_some_iff.mp hhandler
    rw [← hget, List.set_getElem_self]
  simp only [tryNext, Bus.next, List.getD_eq_getElem?_getD, hhandler, Option.getD_some,
    await_of_size_le (Nat.le_of_eq hnext.symm), hset]
  by_cases hsenders : bus.senders = 0
  · rw [if_pos hsenders]
  · rw [if_neg hsenders]

/-- A handler gets the next event that it can hear, and that one is read then. -/
theorem tryNext_of_pending (hhandler : bus.handlers[handler]? = some (some next))
    (hnext : next < bus.sent.size) :
    bus.tryNext handler = (bus.sent[bus.heardNext next]?,
      { bus with handlers := bus.handlers.set handler (some (bus.heardNext next + 1)) }) := by
  have hevent := Array.getElem?_eq_getElem (heardNext_lt hnext)
  simp only [tryNext, Bus.next, List.getD_eq_getElem?_getD, hhandler, Option.getD_some,
    await_of_pending hevent, hevent]

/-- Where there is no handler nothing is got. -/
theorem tryNext_of_absent (hhandler : bus.handlers[handler]? = none) :
    bus.tryNext handler = (none, bus) := by
  simp only [tryNext, Bus.next, List.getD_eq_getElem?_getD, hhandler, Option.getD_none]

end Bus

namespace Proofs.EventDelivery

/-! ## The ledger -/

/-- A use of a bus. -/
inductive Use where
  | emit (event : Event)
  | subscribe
  | tryNext (handler : Nat)
  deriving DecidableEq

/-- The bus after a use of it. -/
def Use.perform (bus : Bus) : Use → Bus
  | .emit event => bus.emit event
  | .subscribe => bus.subscribe.2
  | .tryNext handler => (bus.tryNext handler).2

/-- A fresh bus after a history of uses. -/
def busAfter (uses : List Use) : Bus := uses.foldl Use.perform Bus.fresh

/-- What the ledger holds of a handler. -/
structure Reader where
  /-- How many events had been emitted when the handler subscribed. -/
  since : Nat
  /-- The number of the next unread event. -/
  next : Nat
  deriving DecidableEq

/-- The number of the event that a handler hears when `total` events have been emitted. -/
def Reader.hears (reader : Reader) (total : Nat) : Nat := max reader.next (total - 256)

/-- A handler after it asked for an event. -/
def Reader.ask (total : Nat) (reader : Reader) : Reader :=
  if reader.next = total then reader else { reader with next := reader.hears total + 1 }

/-- The ledger of a bus. -/
structure Ledger where
  /-- The events emitted, in order: they are numbered by their positions. -/
  emitted : List Event
  /-- The handlers, in the order of their subscriptions. -/
  readers : List Reader

namespace Ledger

/-- How many events have been emitted. -/
def total (ledger : Ledger) : Nat := ledger.emitted.length

/-- The ledger after a use. -/
def record (ledger : Ledger) : Use → Ledger
  | .emit event => { ledger with emitted := ledger.emitted ++ [event] }
  | .subscribe => { ledger with readers := ledger.readers ++ [⟨ledger.total, ledger.total⟩] }
  | .tryNext handler =>
    { ledger with readers := ledger.readers.modify handler (Reader.ask ledger.total) }

variable {ledger : Ledger} {handler : Nat} {reader : Reader}

/-- A question changes what is noted of the handler alone. -/
theorem record_tryNext (hreader : ledger.readers[handler]? = some reader) :
    ledger.record (.tryNext handler)
      = { ledger with readers := ledger.readers.set handler (reader.ask ledger.total) } := by
  rw [record, List.modify_eq_set_getElem?, hreader]
  rfl

/-- A question of a handler that has read everything leaves the ledger. -/
theorem record_tryNext_of_all_read (hreader : ledger.readers[handler]? = some reader)
    (hnext : reader.next = ledger.total) : ledger.record (.tryNext handler) = ledger := by
  obtain ⟨hlt, hget⟩ := List.getElem?_eq_some_iff.mp hreader
  rw [record_tryNext hreader, Reader.ask, if_pos hnext, ← hget, List.set_getElem_self]

/-- A question of no handler leaves the ledger. -/
theorem record_tryNext_of_absent (hreader : ledger.readers[handler]? = none) :
    ledger.record (.tryNext handler) = ledger := by
  rw [record, List.modify_eq_self (List.getElem?_eq_none_iff.mp hreader)]

end Ledger

/-- The ledger of a history of uses. -/
def ledger (uses : List Use) : Ledger := uses.foldl Ledger.record ⟨[], []⟩

/-- A bus is kept by a ledger: it holds the events and the next numbers that the ledger says. -/
structure Kept (bus : Bus) (ledger : Ledger) : Prop where
  sent : bus.sent.toList = ledger.emitted
  handlers : bus.handlers = ledger.readers.map fun reader => some reader.next
  within : ∀ reader ∈ ledger.readers, reader.since ≤ reader.next ∧ reader.next ≤ ledger.total

namespace Kept

variable {bus : Bus} {ledger : Ledger} {handler : Nat} {reader : Reader}

/-- The bus has sent as many events as the ledger counts. -/
theorem size_eq (h : Kept bus ledger) : bus.sent.size = ledger.total := by
  rw [← Array.length_toList, h.sent]
  rfl

/-- The bus and the ledger agree on the number that a handler hears next. -/
theorem hears_eq (h : Kept bus ledger) : bus.heardNext reader.next = reader.hears ledger.total := by
  unfold Bus.heardNext Bus.oldest Reader.hears
  rw [h.size_eq]
  rfl

/-- The bus has the next number of a handler that the ledger has. -/
theorem handler_get (h : Kept bus ledger) (hreader : ledger.readers[handler]? = some reader) :
    bus.handlers[handler]? = some (some reader.next) := by
  rw [h.handlers, List.getElem?_map, hreader, Option.map_some]

/-- The bus has no handler that the ledger does not have. -/
theorem handler_absent (h : Kept bus ledger) (hreader : ledger.readers[handler]? = none) :
    bus.handlers[handler]? = none := by
  rw [h.handlers, List.getElem?_map, hreader, Option.map_none]

/-- The next number of a handler lies between the first one since it subscribed and the count of all. -/
theorem reader_within (h : Kept bus ledger) (hreader : ledger.readers[handler]? = some reader) :
    reader.since ≤ reader.next ∧ reader.next ≤ ledger.total :=
  h.within reader (List.mem_of_getElem? hreader)

/-- A handler has read everything, or something is pending. -/
theorem size_cases (h : Kept bus ledger) (hreader : ledger.readers[handler]? = some reader) :
    reader.next = bus.sent.size ∨ reader.next < bus.sent.size := by
  rw [h.size_eq]
  exact Nat.eq_or_lt_of_le (h.reader_within hreader).2

/-- The law of delivery: what the bus answers to a handler. -/
theorem answer (h : Kept bus ledger) (hreader : ledger.readers[handler]? = some reader) :
    (bus.tryNext handler).1
      = if reader.next = ledger.total then none else ledger.emitted[reader.hears ledger.total]? := by
  obtain hnext | hnext := h.size_cases hreader
  · rw [if_pos (hnext.trans h.size_eq), Bus.tryNext_of_all_read (h.handler_get hreader) hnext]
  · have hnext' : reader.next < ledger.total := h.size_eq ▸ hnext
    rw [if_neg (Nat.ne_of_lt hnext'), Bus.tryNext_of_pending (h.handler_get hreader) hnext,
      h.hears_eq, ← h.sent, Array.getElem?_toList]

/-- No handler, no answer. -/
theorem answer_of_absent (h : Kept bus ledger) (hreader : ledger.readers[handler]? = none) :
    (bus.tryNext handler).1 = none := by
  rw [Bus.tryNext_of_absent (h.handler_absent hreader)]

/-- One question of a handler and its record in the ledger. -/
theorem tryNext (h : Kept bus ledger) (handler : Nat) :
    Kept (bus.tryNext handler).2 (ledger.record (.tryNext handler)) := by
  cases hreader : ledger.readers[handler]? with
  | none =>
    rw [Bus.tryNext_of_absent (h.handler_absent hreader), Ledger.record_tryNext_of_absent hreader]
    exact h
  | some reader =>
    obtain hnext | hnext := h.size_cases hreader
    · rw [Bus.tryNext_of_all_read (h.handler_get hreader) hnext,
        Ledger.record_tryNext_of_all_read hreader (hnext.trans h.size_eq)]
      exact h
    · have hnext' : reader.next < ledger.total := h.size_eq ▸ hnext
      rw [Bus.tryNext_of_pending (h.handler_get hreader) hnext, Ledger.record_tryNext hreader,
        Reader.ask, if_neg (Nat.ne_of_lt hnext'), h.hears_eq]
      refine ⟨h.sent, ?_, fun other hother => ?_⟩
      · show bus.handlers.set handler _ = List.map _ (ledger.readers.set handler _)
        rw [List.map_set, h.handlers]
      · obtain hother | rfl := List.mem_or_eq_of_mem_set hother
        · exact h.within other hother
        · obtain ⟨hsince, hle⟩ := h.reader_within hreader
          have hhears : reader.next ≤ reader.hears ledger.total := Nat.le_max_left ..
          have hlt : reader.hears ledger.total < ledger.total := by
            rw [← h.hears_eq, ← h.size_eq]
            exact Bus.heardNext_lt hnext
          exact ⟨by show reader.since ≤ _ + 1; omega, hlt⟩

/-- One use of the bus and its record in the ledger. -/
theorem step (h : Kept bus ledger) (use : Use) : Kept (use.perform bus) (ledger.record use) := by
  cases use with
  | emit event =>
    refine ⟨?_, h.handlers, fun reader hreader => ?_⟩
    · show (bus.sent.push event).toList = ledger.emitted ++ [event]
      rw [Array.toList_push, h.sent]
    · obtain ⟨hsince, hnext⟩ := h.within reader hreader
      refine ⟨hsince, Nat.le_trans hnext ?_⟩
      simp [Ledger.record, Ledger.total]
  | subscribe =>
    refine ⟨h.sent, ?_, fun reader hreader => ?_⟩
    · show bus.handlers ++ [some bus.sent.size] = _
      rw [h.size_eq, h.handlers]
      simp [Ledger.record]
    · obtain hreader | hreader := List.mem_append.mp hreader
      · exact h.within reader hreader
      · cases List.mem_singleton.mp hreader
        exact ⟨Nat.le_refl _, Nat.le_refl _⟩
  | tryNext handler => exact h.tryNext handler

end Kept

/-- The ledger of a history keeps the bus after it. -/
theorem kept_run (uses : List Use) : Kept (busAfter uses) (ledger uses) := by
  induction uses using List.reverseRecOn with
  | nil => exact ⟨rfl, rfl, fun _ hreader => nomatch hreader⟩
  | append_singleton uses use ih =>
    rw [busAfter, ledger, List.foldl_concat, List.foldl_concat]
    exact ih.step use

/-! ## What a handler hears -/

/-- The answers that a handler gets during a history of uses that starts with the given bus. -/
def answersFrom (handler : Nat) (bus : Bus) : List Use → List (Option Event)
  | [] => []
  | use :: uses =>
    let later := answersFrom handler (use.perform bus) uses
    if use = .tryNext handler then (bus.tryNext handler).1 :: later else later

/-- The answers that a handler gets during a history of uses of a fresh bus. -/
def answers (handler : Nat) (uses : List Use) : List (Option Event) :=
  answersFrom handler Bus.fresh uses

/-- The events that a handler hears during a history of uses of a fresh bus. -/
def heard (handler : Nat) (uses : List Use) : List Event := (answers handler uses).reduceOption

/-- One use more gives one answer more, if it is a question of the handler. -/
theorem answersFrom_concat (handler : Nat) (bus : Bus) (uses : List Use) (use : Use) :
    answersFrom handler bus (uses ++ [use]) = answersFrom handler bus uses
      ++ if use = .tryNext handler then [((uses.foldl Use.perform bus).tryNext handler).1] else [] := by
  induction uses generalizing bus with
  | nil => simp [answersFrom]
  | cons first uses ih =>
    simp only [List.cons_append, answersFrom, List.foldl_cons, ih]
    split <;> rfl

/-- A use that is no question of a handler gives it nothing to hear. -/
theorem heard_of_ne {handler : Nat} {use : Use} (h : use ≠ .tryNext handler) (uses : List Use) :
    heard handler (uses ++ [use]) = heard handler uses := by
  rw [heard, answers, answersFrom_concat, if_neg h, List.append_nil]
  rfl

/-- A question of a handler gives it what the bus answers. -/
theorem heard_tryNext (handler : Nat) (uses : List Use) :
    heard handler (uses ++ [.tryNext handler])
      = heard handler uses ++ ((busAfter uses).tryNext handler).1.toList := by
  rw [heard, answers, answersFrom_concat, if_pos rfl, List.reduceOption_append,
    List.reduceOption_singleton]
  rfl

/-- A use is recorded after all others. -/
theorem ledger_concat (uses : List Use) (use : Use) :
    ledger (uses ++ [use]) = (ledger uses).record use := List.foldl_concat ..

/-- A handler that has not subscribed has heard nothing. -/
theorem heard_of_absent {handler : Nat} {uses : List Use}
    (h : (ledger uses).readers[handler]? = none) : heard handler uses = [] := by
  induction uses using List.reverseRecOn with
  | nil => rfl
  | append_singleton uses use ih =>
    rw [ledger_concat] at h
    have hbefore : (ledger uses).readers[handler]? = none := by
      rw [List.getElem?_eq_none_iff] at h ⊢
      cases use with
      | emit event => exact h
      | subscribe =>
        rw [Ledger.record, List.length_append] at h
        omega
      | tryNext other => rwa [Ledger.record, List.length_modify] at h
    by_cases huse : use = .tryNext handler
    · rw [huse, heard_tryNext, ih hbefore, (kept_run uses).answer_of_absent hbefore]
      rfl
    · rw [heard_of_ne huse, ih hbefore]

/-- At some question of a handler the event with a number was waiting for it behind 256 newer ones. -/
def FellBehind (handler : Nat) (uses : List Use) (number : Nat) : Prop :=
  ∃ (earlier later : List Use) (reader : Reader),
    uses = earlier ++ .tryNext handler :: later ∧
    (ledger earlier).readers[handler]? = some reader ∧
    reader.next ≤ number ∧ number + 256 < (ledger earlier).total

/-- Having fallen behind once cannot be undone. -/
theorem FellBehind.append {handler : Nat} {uses : List Use} {number : Nat}
    (h : FellBehind handler uses number) (more : List Use) :
    FellBehind handler (uses ++ more) number := by
  obtain ⟨earlier, later, reader, rfl, h⟩ := h
  exact ⟨earlier, later ++ more, reader, by simp, h⟩

/-- The numbers of the events that a handler has heard, in the order in which it heard them. -/
structure Account (handler : Nat) (uses : List Use) (reader : Reader) (numbers : List Nat) : Prop where
  increasing : numbers.Pairwise (· < ·)
  within : ∀ number ∈ numbers, reader.since ≤ number ∧ number < reader.next
  heard : (heard handler uses).map some = numbers.map ((ledger uses).emitted[·]?)
  lost : ∀ number, reader.since ≤ number → number < reader.next → number ∉ numbers →
    FellBehind handler uses number

namespace Account

variable {handler : Nat} {uses : List Use} {reader : Reader} {numbers : List Nat}

/-- A use that is no question of the handler leaves its account as it was. -/
theorem of_ne (h : Account handler uses reader numbers) {use : Use} (huse : use ≠ .tryNext handler)
    (hnext : reader.next ≤ (ledger uses).total) : Account handler (uses ++ [use]) reader numbers where
  increasing := h.increasing
  within := h.within
  heard := by
    rw [heard_of_ne huse, h.heard]
    apply List.map_congr_left
    intro number hnumber
    have hlt := Nat.lt_of_lt_of_le (h.within number hnumber).2 hnext
    rw [ledger_concat]
    cases use with
    | emit event =>
      show _ = ((ledger uses).emitted ++ [event])[number]?
      rw [List.getElem?_append_left hlt]
    | subscribe => rfl
    | tryNext other => rfl
  lost number hsince hbelow hnot := (h.lost number hsince hbelow hnot).append [use]

/-- A question that gives the handler nothing leaves its account as it was. -/
theorem of_all_read (h : Account handler uses reader numbers)
    (hreader : (ledger uses).readers[handler]? = some reader)
    (hnext : reader.next = (ledger uses).total) :
    Account handler (uses ++ [.tryNext handler]) reader numbers where
  increasing := h.increasing
  within := h.within
  heard := by
    rw [heard_tryNext, (kept_run uses).answer hreader, if_pos hnext, ledger_concat,
      Ledger.record_tryNext_of_all_read hreader hnext, Option.toList_none, List.append_nil, h.heard]
  lost number hsince hbelow hnot := (h.lost number hsince hbelow hnot).append _

/-- A question that gives the handler an event adds its number to the account. -/
theorem of_pending (h : Account handler uses reader numbers)
    (hreader : (ledger uses).readers[handler]? = some reader)
    (hsince : reader.since ≤ reader.next) (hnext : reader.next < (ledger uses).total) :
    Account handler (uses ++ [.tryNext handler]) (reader.ask (ledger uses).total)
      (numbers ++ [reader.hears (ledger uses).total]) := by
  have hhears : reader.next ≤ reader.hears (ledger uses).total := Nat.le_max_left ..
  have hlt : reader.hears (ledger uses).total < (ledger uses).total := by
    unfold Reader.hears
    omega
  rw [Reader.ask, if_neg (Nat.ne_of_lt hnext)]
  constructor
  case increasing =>
    refine List.pairwise_append.mpr ⟨h.increasing, List.pairwise_singleton .., ?_⟩
    intro number hnumber other hother
    cases List.mem_singleton.mp hother
    exact Nat.lt_of_lt_of_le (h.within number hnumber).2 hhears
  case within =>
    intro number hnumber
    show reader.since ≤ number ∧ number < reader.hears (ledger uses).total + 1
    obtain hnumber | hnumber := List.mem_append.mp hnumber
    · have := h.within number hnumber
      omega
    · cases List.mem_singleton.mp hnumber
      omega
  case heard =>
    have hevent : (ledger uses).emitted[reader.hears (ledger uses).total]? = some _ :=
      List.getElem?_eq_getElem hlt
    rw [heard_tryNext, (kept_run uses).answer hreader, if_neg (Nat.ne_of_lt hnext), ledger_concat,
      Ledger.record_tryNext hreader, List.map_append, List.map_append, h.heard, hevent,
      Option.toList_some, List.map_singleton, List.map_singleton, hevent]
  case lost =>
    intro number hfrom hbelow hnot
    rw [List.mem_append, List.mem_singleton, not_or] at hnot
    have hbelow' : number < reader.hears (ledger uses).total + 1 := hbelow
    by_cases hold : number < reader.next
    · exact (h.lost number hfrom hold hnot.1).append _
    · -- what the question skips is older than the newest 256 events
      refine ⟨uses, [], reader, rfl, hreader, Nat.not_lt.mp hold, ?_⟩
      have hskipped : number < reader.hears (ledger uses).total := by omega
      unfold Reader.hears at hskipped
      omega

end Account

/-- Of every handler there is an account of what it heard. -/
theorem exists_account (handler : Nat) (uses : List Use) {reader : Reader}
    (hreader : (ledger uses).readers[handler]? = some reader) :
    ∃ numbers, Account handler uses reader numbers := by
  induction uses using List.reverseRecOn generalizing reader with
  | nil => cases hreader
  | append_singleton uses use ih =>
    have hkept := kept_run uses
    rw [ledger_concat] at hreader
    cases use with
    | emit event =>
      obtain ⟨numbers, h⟩ := ih hreader
      exact ⟨numbers, h.of_ne nofun (hkept.reader_within hreader).2⟩
    | subscribe =>
      obtain hlt | hge := Nat.lt_or_ge handler (ledger uses).readers.length
      · rw [Ledger.record, List.getElem?_append_left hlt] at hreader
        obtain ⟨numbers, h⟩ := ih hreader
        exact ⟨numbers, h.of_ne nofun (hkept.reader_within hreader).2⟩
      · have habsent := heard_of_absent (List.getElem?_eq_none hge)
        rw [Ledger.record, List.getElem?_append_right hge] at hreader
        obtain rfl := List.mem_singleton.mp (List.mem_of_getElem? hreader)
        refine ⟨[], List.Pairwise.nil, nofun, ?_, fun number hfrom hbelow _ => ?_⟩
        · rw [heard_of_ne (nofun : Use.subscribe ≠ .tryNext handler), habsent]
          rfl
        · exact absurd (Nat.lt_of_le_of_lt hfrom hbelow) (Nat.lt_irrefl _)
    | tryNext other =>
      rw [Ledger.record, List.getElem?_modify] at hreader
      obtain ⟨former, hformer, rfl⟩ := Option.map_eq_some_iff.mp hreader
      obtain ⟨numbers, h⟩ := ih hformer
      obtain ⟨hsince, hle⟩ := hkept.reader_within hformer
      by_cases hother : other = handler
      · rw [if_pos hother, hother]
        obtain hnext | hnext := Nat.eq_or_lt_of_le hle
        · rw [Reader.ask, if_pos hnext]
          exact ⟨numbers, h.of_all_read hformer hnext⟩
        · exact ⟨_, h.of_pending hformer hsince hnext⟩
      · rw [if_neg hother]
        exact ⟨numbers, h.of_ne (fun heq => hother (Use.tryNext.inj heq)) hle⟩

/-! ## Other handlers -/

/-- Whether a use is no question of another handler. -/
def Use.concerns (handler : Nat) : Use → Bool
  | .tryNext other => other = handler
  | _ => true

/-- Two ledgers say the same of a handler. -/
structure Alike (handler : Nat) (first second : Ledger) : Prop where
  emitted : first.emitted = second.emitted
  length : first.readers.length = second.readers.length
  reader : first.readers[handler]? = second.readers[handler]?

namespace Alike

variable {handler : Nat} {first second : Ledger}

/-- A ledger says the same as itself. -/
theorem refl (handler : Nat) (ledger : Ledger) : Alike handler ledger ledger := ⟨rfl, rfl, rfl⟩

/-- Ledgers that say the same count the same events. -/
theorem total_eq (h : Alike handler first second) : first.total = second.total :=
  congrArg List.length h.emitted

/-- Ledgers that say the same of a handler still do after one use. -/
theorem record (h : Alike handler first second) (use : Use) :
    Alike handler (first.record use) (second.record use) := by
  cases use with
  | emit event => exact ⟨congrArg (· ++ [event]) h.emitted, h.length, h.reader⟩
  | subscribe =>
    refine ⟨h.emitted, ?_, ?_⟩
    · simp [Ledger.record, h.length]
    · simp only [Ledger.record, List.getElem?_append, h.length, h.reader, h.total_eq]
  | tryNext other =>
    refine ⟨h.emitted, ?_, ?_⟩
    · simp [Ledger.record, h.length]
    · simp only [Ledger.record, List.getElem?_modify, h.reader, h.total_eq]

/-- A question of another handler changes nothing of what is said of a handler. -/
theorem record_of_other (h : Alike handler first second) {other : Nat} (hother : other ≠ handler) :
    Alike handler (first.record (.tryNext other)) second := by
  refine ⟨h.emitted, ?_, ?_⟩
  · simp [Ledger.record, h.length]
  · simp [Ledger.record, hother, h.reader]

/-- A handler gets the same answer of buses whose ledgers say the same of it. -/
theorem answer {bus bus' : Bus} (h : Alike handler first second) (hfirst : Kept bus first)
    (hsecond : Kept bus' second) : (bus.tryNext handler).1 = (bus'.tryNext handler).1 := by
  cases hreader : second.readers[handler]? with
  | none => rw [hfirst.answer_of_absent (h.reader.trans hreader), hsecond.answer_of_absent hreader]
  | some reader =>
    rw [hfirst.answer (h.reader.trans hreader), hsecond.answer hreader, h.total_eq, h.emitted]

/-- A handler gets the same answers when the questions of all others are left out. -/
theorem answersFrom {bus bus' : Bus} (h : Alike handler first second) (hfirst : Kept bus first)
    (hsecond : Kept bus' second) (uses : List Use) :
    answersFrom handler bus uses
      = EventDelivery.answersFrom handler bus' (uses.filter (Use.concerns handler)) := by
  induction uses generalizing bus bus' first second with
  | nil => rfl
  | cons use uses ih =>
    by_cases huse : use.concerns handler
    · rw [List.filter_cons_of_pos huse, EventDelivery.answersFrom, EventDelivery.answersFrom,
        ih (h.record use) (hfirst.step use) (hsecond.step use), h.answer hfirst hsecond]
    · cases use with
      | emit event => exact absurd rfl huse
      | subscribe => exact absurd rfl huse
      | tryNext other =>
        have hother : other ≠ handler := fun heq => huse (decide_eq_true heq)
        rw [List.filter_cons_of_neg huse, EventDelivery.answersFrom,
          if_neg fun heq => hother (Use.tryNext.inj heq)]
        exact ih (h.record_of_other hother) (hfirst.step _) hsecond

end Alike

/-! ## The law of delivery -/

/-- Whatever was done with a bus, a handler that asks for an event gets none exactly when it has read
all; otherwise it gets its next unread event, or the oldest of the newest 256 if that one is older, and
goes on behind it, after at most one report of a lag. So what it has heard are events emitted since it
subscribed, with increasing numbers; an event among them that it has not heard was at some question
waiting for it behind 256 newer ones; and what other handlers asked makes no difference. -/
theorem events_delivered (uses : List Use) (handler : Nat) (reader : Reader)
    (hreader : (ledger uses).readers[handler]? = some reader) :
    let total := (ledger uses).total
    (((busAfter uses).tryNext handler).1 = none ↔ reader.next = total) ∧
    (reader.next ≠ total → ((busAfter uses).tryNext handler).1
        = (ledger uses).emitted[max reader.next (total - 256)]? ∧
      (ledger (uses ++ [.tryNext handler])).readers[handler]?
        = some { reader with next := max reader.next (total - 256) + 1 }) ∧
    (busAfter uses).handlers[handler]? = some (some reader.next) ∧
    ((busAfter uses).await reader.next).1
      = (if reader.next + 256 < total then [total - 256 - reader.next] else []) ∧
    (∃ numbers : List Nat, numbers.Pairwise (· < ·) ∧
      (∀ number ∈ numbers, reader.since ≤ number ∧ number < reader.next) ∧
      (heard handler uses).map some = numbers.map ((ledger uses).emitted[·]?) ∧
      ∀ number, reader.since ≤ number → number < reader.next → number ∉ numbers →
        FellBehind handler uses number) ∧
    answers handler uses = answers handler (uses.filter (Use.concerns handler)) := by
  have hkept := kept_run uses
  have hwithin := hkept.reader_within hreader
  have hanswer := hkept.answer hreader
  intro total
  have hlt (hnext : reader.next ≠ total) : reader.hears total < total := by
    have hle : reader.next ≤ total := hwithin.2
    unfold Reader.hears
    omega
  refine ⟨?_, fun hnext => ⟨?_, ?_⟩, hkept.handler_get hreader, ?_, ?_, ?_⟩
  · constructor
    · intro hnone
      by_contra hnext
      rw [hanswer, if_neg hnext, List.getElem?_eq_getElem (hlt hnext)] at hnone
      cases hnone
    · intro hnext
      rw [hanswer, if_pos hnext]
  · rw [hanswer, if_neg hnext]
    rfl
  · rw [ledger_concat, Ledger.record, List.getElem?_modify, hreader]
    show some (if handler = handler then reader.ask total else reader) = _
    rw [if_pos rfl, Reader.ask, if_neg hnext]
    rfl
  · have hsize : reader.next ≤ (busAfter uses).sent.size := by
      rw [hkept.size_eq]
      exact hwithin.2
    rw [Bus.reports_await hsize, Bus.oldest, hkept.size_eq]
    rfl
  · obtain ⟨numbers, h⟩ := exists_account handler uses hreader
    exact ⟨numbers, h.increasing, h.within, h.heard, h.lost⟩
  · exact (Alike.refl handler _).answersFrom (kept_run []) (kept_run []) uses

/-- A handler subscribes; then 257 documents are opened. -/
def lateUses : List Use :=
  .subscribe :: (List.range 257).map fun number => .emit (.documentOpened ⟨number⟩)

/-- A handler that is 257 events behind has lost the first of them, and hears of it. -/
theorem events_delivered_late :
    (ledger lateUses).readers[0]? = some ⟨0, 0⟩ ∧
    ((busAfter lateUses).tryNext 0).1 = some (.documentOpened ⟨1⟩) ∧
    ((busAfter lateUses).await 0).1 = [1] := by
  have hreader : (ledger lateUses).readers[0]? = some ⟨0, 0⟩ := by decide +kernel
  have htotal : (ledger lateUses).total = 257 := by decide +kernel
  have hsecond : (ledger lateUses).emitted[1]? = some (.documentOpened ⟨1⟩) := by decide +kernel
  obtain ⟨-, hanswer, -, hreports, -⟩ := events_delivered lateUses 0 ⟨0, 0⟩ hreader
  rw [htotal] at hanswer hreports
  exact ⟨hreader, (hanswer (by decide)).1.trans hsecond, hreports⟩

end Proofs.EventDelivery

end Dimming
