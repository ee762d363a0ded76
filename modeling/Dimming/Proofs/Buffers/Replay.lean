import Dimming.Proofs.Buffers.Edits

/-!
# Logs of edits

A change of a buffer puts a text in the place of a range of characters; an insertion takes an empty range,
a deletion puts in nothing. The reported edit tells the same change in bytes. So a log of reports, each
with the text that was put in, is enough to lead the bytes of the first text to those of the last one,
without a look at any character.
-/

set_option autoImplicit false

namespace Dimming

open Text

/-- A call that changes a buffer. -/
inductive Change where
  | insert (index : Nat) (text : List Char)
  | delete (start stop : Nat)
  deriving DecidableEq, Repr

namespace Change

/-- The index of the first character that is replaced. -/
def start : Change → Nat
  | .insert index _ => index
  | .delete start _ => start

/-- The index behind the last character that is replaced. -/
def stop : Change → Nat
  | .insert index _ => index
  | .delete _ stop => stop

/-- The text that is put in. -/
def put : Change → List Char
  | .insert _ text => text
  | .delete _ _ => []

/-- The indices are in order and lie within a text. -/
def InRange (change : Change) (text : List Char) : Prop :=
  change.start ≤ change.stop ∧ change.stop ≤ text.length

instance (change : Change) (text : List Char) : Decidable (change.InRange text) :=
  inferInstanceAs (Decidable (_ ∧ _))

/-- The text after the change. -/
def applyTo (change : Change) (text : List Char) : List Char :=
  text.take change.start ++ change.put ++ text.drop change.stop

/-- The indices of changes that are made one after the other are in range, each in the text that the
changes before it have left. -/
def AllInRange : List Char → List Change → Prop
  | _, [] => True
  | text, change :: rest => change.InRange text ∧ AllInRange (change.applyTo text) rest

end Change

/-- An edit as it was reported, with the text that was put in. -/
structure Report where
  edit : Edit
  put : List Char

/-- The bytes after the edits of a log, oldest first. -/
def replay (bytes : List UInt8) (log : List Report) : List UInt8 :=
  log.foldl
    (fun bytes report =>
      bytes.take report.edit.startByte ++ utf8 report.put ++ bytes.drop report.edit.oldEndByte)
    bytes

namespace Buffer

/-- Makes a change. -/
def change (buffer : Buffer) : Change → Except BufferError (Edit × Buffer)
  | .insert index text => buffer.insert index text
  | .delete start stop => buffer.delete start stop

/-- Makes changes one after the other and keeps the log; stops at the first one that fails. -/
def changeAll (buffer : Buffer) : List Change → Except BufferError (List Report × Buffer)
  | [] => .ok ([], buffer)
  | change :: rest =>
    match buffer.change change with
    | .error cause => .error cause
    | .ok (edit, after) =>
      match after.changeAll rest with
      | .error cause => .error cause
      | .ok (log, last) => .ok (⟨edit, change.put⟩ :: log, last)

/-- A change in range is made. -/
theorem change_of_inRange {buffer : Buffer} {change : Change} (h : change.InRange buffer.chars) :
    ∃ edit after, buffer.change change = .ok (edit, after) := by
  obtain ⟨hle, hstop⟩ := h
  cases change with
  | insert index text =>
    have hindex : ¬ index > buffer.charCount := Nat.not_lt.mpr hstop
    exact ⟨_, _, if_neg hindex⟩
  | delete start stop =>
    have hrange : ¬ (start > stop ∨ stop > buffer.charCount) :=
      not_or.mpr ⟨Nat.not_lt.mpr hle, Nat.not_lt.mpr hstop⟩
    exact ⟨_, _, if_neg hrange⟩

/-- A change replaces the characters of its range by its text. -/
theorem replaces_change {buffer after : Buffer} {change : Change} {edit : Edit}
    (h : buffer.change change = .ok (edit, after)) :
    buffer.Replaces edit after (buffer.chars.take change.start)
      ((buffer.chars.take change.stop).drop change.start) change.put
      (buffer.chars.drop change.stop) := by
  cases change with
  | insert index text =>
    have hnone : (buffer.chars.take index).drop index = [] :=
      List.drop_eq_nil_of_le (List.length_take_le index buffer.chars)
    simp only [Change.start, Change.stop, Change.put, hnone]
    exact replaces_insert h
  | delete start stop => exact replaces_delete h

/-- A change that is made is made to the characters. -/
theorem chars_change {buffer after : Buffer} {change : Change} {edit : Edit}
    (h : buffer.change change = .ok (edit, after)) : after.chars = change.applyTo buffer.chars :=
  (replaces_change h).chars_after

end Buffer

/-- The edit tells, in bytes, just the change from one text to another: its ends are the offsets of the
characters that bound the range, none of them lies inside a character, and the bytes of the new text are
those of the old one with the range replaced. -/
structure Edit.Exact (edit : Edit) (change : Change) (before after : List Char) : Prop where
  start_eq : edit.startByte = (utf8 (before.take change.start)).length
  oldEnd_eq : edit.oldEndByte = (utf8 (before.take change.stop)).length
  newEnd_eq : edit.newEndByte = edit.startByte + (utf8 change.put).length
  start_before : IsBoundary before edit.startByte
  oldEnd_before : IsBoundary before edit.oldEndByte
  start_after : IsBoundary after edit.startByte
  newEnd_after : IsBoundary after edit.newEndByte
  bytes_eq : utf8 after =
    (utf8 before).take edit.startByte ++ utf8 change.put ++ (utf8 before).drop edit.oldEndByte

namespace Buffer

/-- What is cut out of the bytes before and behind the range is what stands there in characters. -/
theorem Replaces.utf8_eq {buffer after : Buffer} {edit : Edit} {front old new back : List Char}
    (h : Replaces buffer edit after front old new back) :
    utf8 after.chars = (utf8 buffer.chars).take edit.startByte ++ utf8 new ++
      (utf8 buffer.chars).drop edit.oldEndByte := by
  have htake : (utf8 buffer.chars).take edit.startByte = utf8 front := by
    rw [h.chars_before, h.start_eq, List.append_assoc, utf8_append, ← length_utf8, List.take_left']
    rfl
  have hdrop : (utf8 buffer.chars).drop edit.oldEndByte = utf8 back := by
    rw [h.chars_before, h.oldEnd_eq, utf8_append, ← length_utf8, List.drop_left']
    rfl
  rw [htake, hdrop, h.chars_after, utf8_append, utf8_append]

/-- Every reported edit is exact. -/
theorem exact_change {buffer after : Buffer} {change : Change} {edit : Edit}
    (hrange : change.InRange buffer.chars) (h : buffer.change change = .ok (edit, after)) :
    edit.Exact change buffer.chars after.chars := by
  have hreplaces := replaces_change h
  have hold := hreplaces.oldEnd_eq
  rw [take_append_drop_take buffer.chars hrange.1] at hold
  refine ⟨?_, ?_, ?_, ?_, ?_, ?_, ?_, hreplaces.utf8_eq⟩
  · rw [length_utf8, hreplaces.start_eq]
  · rw [length_utf8, hold]
  · rw [length_utf8, hreplaces.newEnd_eq, hreplaces.start_eq, byteLength_append]
  · rw [hreplaces.start_eq]
    exact isBoundary_byteOffset buffer.chars change.start
  · rw [hold]
    exact isBoundary_byteOffset buffer.chars change.stop
  · exact ⟨_, _, hreplaces.chars_after.trans (List.append_assoc _ _ _), hreplaces.start_eq.symm⟩
  · exact ⟨_, _, hreplaces.chars_after, hreplaces.newEnd_eq.symm⟩

/-- Changes in range are made, all of them, and the log leads the bytes of the first text to those of
the last one. -/
theorem replay_changeAll {buffer : Buffer} {changes : List Change}
    (h : Change.AllInRange buffer.chars changes) :
    ∃ log last, buffer.changeAll changes = .ok (log, last) ∧
      replay (utf8 buffer.chars) log = utf8 last.chars := by
  -- the rest of the changes starts from the buffer after the first one
  induction changes generalizing buffer with
  | nil => exact ⟨[], buffer, rfl, rfl⟩
  | cons change rest ih =>
    obtain ⟨hrange, hrest⟩ := h
    obtain ⟨edit, after, hchange⟩ := change_of_inRange hrange
    rw [← chars_change hchange] at hrest
    obtain ⟨log, last, hlog, hreplay⟩ := ih hrest
    refine ⟨⟨edit, change.put⟩ :: log, last, by simp only [changeAll, hchange, hlog], ?_⟩
    have hexact := exact_change hrange hchange
    rw [← hreplay, hexact.bytes_eq]
    rfl

/-- The log of changes that are made after others comes behind theirs. -/
theorem changeAll_append {buffer before last : Buffer} {first rest : List Change}
    {log more : List Report} (hfirst : buffer.changeAll first = .ok (log, before))
    (hrest : before.changeAll rest = .ok (more, last)) :
    buffer.changeAll (first ++ rest) = .ok (log ++ more, last) := by
  induction first generalizing buffer log with
  | nil =>
    cases hfirst
    exact hrest
  | cons change first ih =>
    simp only [changeAll] at hfirst
    cases hchange : buffer.change change with
    | error cause => simp only [hchange, reduceCtorEq] at hfirst
    | ok made =>
      obtain ⟨edit, after⟩ := made
      simp only [hchange] at hfirst
      cases htail : after.changeAll first with
      | error cause => simp only [htail, reduceCtorEq] at hfirst
      | ok done =>
        obtain ⟨tail, reached⟩ := done
        simp only [htail, Except.ok.injEq, Prod.mk.injEq] at hfirst
        obtain ⟨rfl, rfl⟩ := hfirst
        simp only [List.cons_append, changeAll, hchange, ih htail]

end Buffer

end Dimming

namespace Dimming.Proofs.EditReports

open Text

/-- Changes in range, any number of them and in any text, are all made, and the log of the reported edits
leads the bytes of the first text to those of the last one; the buffer counts the characters and the
bytes of the text it then holds.
When one more change in range is made after them, it is made too, and the edit that is reported for it is
exact: its ends are the offsets of the characters that bound the range, each on a boundary of the text
it refers to, and the new bytes are the old ones with the range replaced by what was put in. -/
theorem edit_log_replays (buffer : Buffer) (changes : List Change)
    (h : Change.AllInRange buffer.chars changes) :
    ∃ log last, buffer.changeAll changes = .ok (log, last) ∧
      replay (utf8 buffer.chars) log = utf8 last.chars ∧
      last.charCount = last.text.length ∧ last.byteCount = last.text.utf8ByteSize ∧
      ∀ next : Change, next.InRange last.chars →
        ∃ edit after, last.change next = .ok (edit, after) ∧
          buffer.changeAll (changes ++ [next]) = .ok (log ++ [⟨edit, next.put⟩], after) ∧
          edit.Exact next last.chars after.chars := by
  obtain ⟨log, last, hlog, hreplay⟩ := Buffer.replay_changeAll h
  refine ⟨log, last, hlog, hreplay, ?_, ?_, ?_⟩
  · exact String.length_ofList.symm
  · exact (utf8ByteSize_ofList last.chars).symm
  · intro next hnext
    obtain ⟨edit, after, hchange⟩ := Buffer.change_of_inRange hnext
    have hone : last.changeAll [next] = .ok ([⟨edit, next.put⟩], after) := by
      simp only [Buffer.changeAll, hchange]
    exact ⟨edit, after, hchange, Buffer.changeAll_append hlog hone,
      Buffer.exact_change hnext hchange⟩

/-- A letter and an arrow of three bytes are put behind a letter of two bytes, which is then taken out. -/
def accentChanges : List Change := [.insert 1 ['x', '→'], .delete 0 1]

/-- Both reports count bytes, and the log leads to the bytes of the text that is left. -/
theorem edit_log_replays_accent :
    Change.AllInRange (Buffer.ofText "é = 1").chars accentChanges ∧
      ∃ log last, (Buffer.ofText "é = 1").changeAll accentChanges = .ok (log, last) ∧
        log.map (fun report =>
          (report.edit.startByte, report.edit.oldEndByte, report.edit.newEndByte)) =
            [(2, 2, 6), (0, 2, 0)] ∧
        replay (utf8 "é = 1".toList) log = utf8 "x→ = 1".toList := by
  have hrange : Change.AllInRange (Buffer.ofText "é = 1").chars accentChanges :=
    ⟨by decide, by decide, trivial⟩
  obtain ⟨log, last, hlog, hreplay, -⟩ := edit_log_replays _ accentChanges hrange
  have hends : ((Buffer.ofText "é = 1").changeAll accentChanges).map (fun made =>
      (made.1.map (fun report =>
        (report.edit.startByte, report.edit.oldEndByte, report.edit.newEndByte)),
        made.2.chars)) = .ok ([(2, 2, 6), (0, 2, 0)], "x→ = 1".toList) := by rfl
  rw [hlog] at hends
  obtain ⟨hbytes, hchars⟩ := Prod.mk.inj (Except.ok.inj hends)
  rw [hchars] at hreplay
  exact ⟨hrange, log, last, hlog, hbytes, hreplay⟩

end Dimming.Proofs.EditReports
