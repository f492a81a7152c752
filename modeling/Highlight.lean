import Highlight.Config.File
import Highlight.Document.Cache
import Highlight.Document.Edit
import Highlight.Document.FlaggedLines
import Highlight.Document.TextField
import Highlight.Editor.Frame
import Highlight.Editor.Options
import Highlight.Editor.Terminal
import Highlight.Json.Outline
import Highlight.Json.Printer
import Highlight.Json.Reader
import Highlight.Json.Skipping
import Highlight.Layout
import Highlight.Main
import Highlight.Proofs.DocumentCache
import Highlight.Proofs.Json.Highlighting
import Highlight.Proofs.Painting
import Highlight.Stored
import Highlight.Surface.Host
import Highlight.Theme.Palette
import Highlight.Proofs.Number.Digits
import Highlight.Proofs.Surface.Frame
import Highlight.Proofs.Surface.Run
import Highlight.Proofs.Config.Sensible
import Highlight.Proofs.Json.NumeralText
import Highlight.Proofs.Json.Written
import Highlight.Proofs.Json.Enclosed
import Highlight.Proofs.Theme.Written
import Highlight.Proofs.Config.Saved
import Highlight.Proofs.Json.Places
import Highlight.Proofs.Surface.Change
import Highlight.Proofs.Surface.Moments
import Highlight.Proofs.Surface.Edits
import Highlight.Proofs.Surface.Flags
import Highlight.Proofs.Editor.Current
import Highlight.Proofs.Offsets.Languages
import Highlight.Proofs.Grammar.Markup
import Highlight.Proofs.Grammar.Vocabulary
import Highlight.Proofs.Grammar.Yaml
import Highlight.Proofs.Json.Literals
import Highlight.Proofs.Grammar.Words
import Highlight.Proofs.LetterCase
import Highlight.Proofs.Grammar.Scalars
import Highlight.Proofs.Grammar.CharacterRuns
import Highlight.Proofs.Grammar.Record
import Highlight.Proofs.Grammar.Assignment
import Highlight.Proofs.History
import Highlight.Proofs.Endings
import Highlight.Proofs.Grammar.Command
import Highlight.Proofs.Grammar.Stylesheet
import Highlight.Proofs.JoinedLines
import Highlight.Proofs.Grammar.QuotedKeys
import Highlight.Proofs.Grammar.Prose
import Highlight.Proofs.Grammar.Tags
import Highlight.Proofs.JoinedDocuments
import Highlight.Proofs.Indentation
import Highlight.Proofs.Surface.Focus
import Highlight.Proofs.Surface.Tabs
import Highlight.Proofs.Surface.TabPress
import Highlight.Proofs.Theme.ColorForms
import Highlight.Proofs.Config.Repairs
import Highlight.Proofs.FlaggedRows
import Highlight.Proofs.Layout.VisibleRows
import Highlight.Proofs.Layout.Gutter
import Highlight.Proofs.Positions
import Highlight.Proofs.Theme.Palettes
import Highlight.Proofs.Json.Naturals
import Highlight.Proofs.FlaggedLines
import Highlight.Proofs.StoredTokens
import Highlight.Proofs.CoverCalls
import Highlight.Proofs.Config.Accepted
import Highlight.Proofs.Grammar.NodeProperties
import Highlight.Proofs.Surface.Heights
