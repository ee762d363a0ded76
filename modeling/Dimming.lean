import Dimming.Command
import Dimming.Main
import Dimming.Proofs.Overlay.History
import Dimming.Proofs.Documents.Laws
import Dimming.Proofs.Editors.Accord
import Dimming.Proofs.Editors.History
import Dimming.Proofs.Buffers.Edits
import Dimming.Proofs.Documents.Applied
import Dimming.Proofs.Highlighting.Spans
import Dimming.Proofs.Trees.Offsets
import Dimming.Proofs.Documents.InStep
import Dimming.Proofs.Buffers.Replay
import Dimming.Proofs.Buffers.Points
import Dimming.Proofs.Documents.Repaint
import Dimming.Proofs.Features.Effective
import Dimming.Proofs.Highlighting.LastMark
import Dimming.Proofs.Editors.Bodies
import Dimming.Proofs.Editors.Shown
import Dimming.Proofs.Text.Feeds
import Dimming.Proofs.Text.Quotes
import Dimming.Proofs.Buffers.Rows
import Dimming.Proofs.Editors.Shelves
import Dimming.Proofs.Editors.Announced
import Dimming.Proofs.Editors.Observed
import Dimming.Proofs.Editors.Lifetimes
import Dimming.Proofs.Editors.Refusals
import Dimming.Proofs.Editors.ActiveDocument
import Dimming.Proofs.Settings.RuleSets
import Dimming.Proofs.Settings.Registry
import Dimming.Proofs.Toml.Texts
import Dimming.Proofs.Toml.Values
import Dimming.Proofs.Toml.Lines
import Dimming.Proofs.Toml.Tables
import Dimming.Proofs.Settings.Written
import Dimming.Proofs.Settings.Saved
import Dimming.Proofs.Highlighting.Resolved
import Dimming.Proofs.Editors.Paths
import Dimming.Proofs.Events.Delivery
import Dimming.Proofs.Patterns.Bare
import Dimming.Proofs.Patterns.Kinds
import Dimming.Proofs.Rules.Base
import Dimming.Proofs.Editors.Opened
import Dimming.Proofs.CommandLines.Arguments
import Dimming.Proofs.CommandLines.Runs
import Dimming.Proofs.Features.Tiers
import Dimming.Proofs.Highlighting.Levels
import Dimming.Proofs.Overlay.Erased
import Dimming.Proofs.Rules.Captures
import Dimming.Proofs.Buffers.Places
import Dimming.Proofs.Buffers.Slices
import Dimming.Proofs.Languages.Detected
import Dimming.Proofs.Rules.Algebra
