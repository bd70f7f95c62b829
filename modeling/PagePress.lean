import PagePress.Asset
import PagePress.Attribute.Basic
import PagePress.Attribute.Fragment
import PagePress.Attribute.Kind
import PagePress.Base64
import PagePress.Bundle.Journal
import PagePress.Bundle.Page
import PagePress.Bundle.Resource
import PagePress.Bundle.Script
import PagePress.Bundle.Style
import PagePress.Chunk
import PagePress.CommandLine
import PagePress.Comment
import PagePress.Disk
import PagePress.Element
import PagePress.Event
import PagePress.Fault
import PagePress.Form
import PagePress.Main
import PagePress.Markup.Declaration
import PagePress.Markup.Letter
import PagePress.Markup.Nesting
import PagePress.Markup.Reader
import PagePress.Markup.Reference
import PagePress.Markup.Tag
import PagePress.Markup.Tree
import PagePress.MediaType
import PagePress.Minify
import PagePress.Options
import PagePress.Page
import PagePress.Path
import PagePress.Run
import PagePress.Script.Compact
import PagePress.Service
import PagePress.Session
import PagePress.Stylesheet.Compact
import PagePress.Stylesheet.Spacing
import PagePress.Stylesheet.Values
import PagePress.Text.Basic
import PagePress.Text.Case
import PagePress.Text.CaseTable
import PagePress.Text.Digit
import PagePress.Text.Printable
import PagePress.Text.Quoted
import PagePress.Text.Ranges
import PagePress.Text.Search
import PagePress.Text.Utf8
import PagePress.Wrapper
import PagePress.Xml.Document
import PagePress.Xml.Name
import PagePress.Xml.Reading
import PagePress.Xml.Subset
import PagePress.Xml.Tag
import PagePress.Xml.Uri
import PagePress.Xml.Value
import PagePress.Proofs.Transcript
import PagePress.Proofs.ImpliedEnds
import PagePress.Proofs.Ink
import PagePress.Proofs.Survival
import PagePress.Proofs.Ledger
import PagePress.Proofs.Course
import PagePress.Proofs.OpenElements
import PagePress.Proofs.Pieces
import PagePress.Proofs.OpeningMarks
import PagePress.Proofs.Handover
import PagePress.Proofs.Preformatted
import PagePress.Proofs.Faults
import PagePress.Proofs.EmptyElements
import PagePress.Proofs.Residue
import PagePress.Proofs.Erasure
import PagePress.Proofs.Isolation
import PagePress.Proofs.Exchange
import PagePress.Proofs.Clients
import PagePress.Proofs.Stylesheets
import PagePress.Proofs.Blocks
import PagePress.Proofs.ResourceTags
import PagePress.Proofs.Fragments
import PagePress.Proofs.ReadBack
import PagePress.Proofs.Cells
import PagePress.Proofs.Embedding
import PagePress.Proofs.ShorterTags
import PagePress.Proofs.CollapsedText
import PagePress.Proofs.Tidying
import PagePress.Proofs.Conditions
import PagePress.Proofs.Unwrapping
import PagePress.Proofs.CleanedValues
import PagePress.Proofs.Forms
import PagePress.Proofs.ScriptBundles
import PagePress.Proofs.Seams
import PagePress.Proofs.Resolution
