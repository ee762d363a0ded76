import Dimming.Proofs.Buffers.Points
import Dimming.Proofs.Text.Feeds

/-!
# The rows that a parser counts

A parser that hears of an edit expects its points in rows that only line feeds end. The points of a
buffer, and with them those that it reports, are of this kind as long as line feeds alone have ended
lines before the offset; behind any other line break they are not.
-/

set_option autoImplicit false

namespace Dimming.Proofs.FeedRows

open Text

/-- For every text and every offset in it, inside of characters as well, the point of the offset is the one
that is counted in line feeds exactly when every line that ends up to there ends in a line feed.
The same holds of the points that are reported with a change: of the start and of the old end in the text
before it, and of the new end of an insertion in the text after it. -/
theorem point_counts_feeds_iff (buffer : Buffer) (offset : Nat) (h : offset ≤ buffer.byteCount) :
    (buffer.point offset = .ok (feedPoint ((utf8 buffer.chars).take offset)) ↔
      OnlyFeeds buffer.chars offset) ∧
    ∀ change edit after, change.InRange buffer.chars →
      buffer.change change = .ok (edit, after) →
      (edit.startPoint = feedPoint ((utf8 buffer.chars).take edit.startByte) ↔
        OnlyFeeds buffer.chars edit.startByte) ∧
      (edit.oldEndPoint = feedPoint ((utf8 buffer.chars).take edit.oldEndByte) ↔
        OnlyFeeds buffer.chars edit.oldEndByte) ∧
      (∀ index text, change = .insert index text →
        (edit.newEndPoint = feedPoint ((utf8 after.chars).take edit.newEndByte) ↔
          OnlyFeeds after.chars edit.newEndByte)) := by
  constructor
  · have hpoint : buffer.point offset = .ok (pointAt buffer.chars offset) :=
      if_neg (Nat.not_lt.mpr h)
    rw [hpoint, Except.ok.injEq]
    exact pointAt_eq_feedPoint_iff buffer.chars h
  · intro change edit after hrange hchange
    have hexact := Buffer.exact_change hrange hchange
    obtain ⟨hstart, hold⟩ := Buffer.points_before_change hchange
    refine ⟨?_, ?_, ?_⟩
    · rw [hstart]
      exact pointAt_eq_feedPoint_iff buffer.chars hexact.start_before.le_byteLength
    · rw [hold]
      exact pointAt_eq_feedPoint_iff buffer.chars hexact.oldEnd_before.le_byteLength
    · rintro index text rfl
      rw [Buffer.newEndPoint_insert hchange]
      exact pointAt_eq_feedPoint_iff after.chars hexact.newEnd_after.le_byteLength

/-- Behind a carriage return with its line feed rows are counted as in line feeds. -/
theorem point_counts_feeds_behind_pair :
    3 ≤ (Buffer.ofText "a\r\nb").byteCount ∧
      (Buffer.ofText "a\r\nb").point 3 = .ok ⟨1, 0⟩ ∧
      OnlyFeeds (Buffer.ofText "a\r\nb").chars 3 := by
  have hle : 3 ≤ (Buffer.ofText "a\r\nb").byteCount := by decide
  have hpoint : (Buffer.ofText "a\r\nb").point 3 = .ok ⟨1, 0⟩ := by rfl
  have hfeeds : feedPoint ((utf8 (Buffer.ofText "a\r\nb").chars).take 3) = ⟨1, 0⟩ := by decide
  refine ⟨hle, hpoint, ?_⟩
  apply (point_counts_feeds_iff (Buffer.ofText "a\r\nb") 3 hle).1.mp
  rw [hpoint, hfeeds]

/-- Behind a line separator they are not, nor is the point of an insertion there. -/
theorem point_counts_separator :
    (Buffer.ofText "a\u2028b").point 4 = .ok ⟨1, 0⟩ ∧
      feedPoint ((utf8 (Buffer.ofText "a\u2028b").chars).take 4) = ⟨0, 4⟩ ∧
      ∃ edit after, (Buffer.ofText "a\u2028b").insert 2 ['c'] = .ok (edit, after) ∧
        edit.startByte = 4 ∧ edit.startPoint = ⟨1, 0⟩ := by
  exact ⟨by rfl, by decide, _, _, rfl, by decide, by decide⟩

end Dimming.Proofs.FeedRows
