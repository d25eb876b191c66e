import DocAtlas.Category
import DocAtlas.Classify
import DocAtlas.Command.Basic
import DocAtlas.Command.Check
import DocAtlas.Command.Probes
import DocAtlas.Command.Run
import DocAtlas.Command.Write
import DocAtlas.Config.Basic
import DocAtlas.Config.Reader
import DocAtlas.Contents.Basic
import DocAtlas.Corpus.Basic
import DocAtlas.Corpus.Fingerprint
import DocAtlas.Corpus.Links
import DocAtlas.Corpus.Priority
import DocAtlas.Corpus.Record
import DocAtlas.Digest.Sha256
import DocAtlas.Fault
import DocAtlas.Issue
import DocAtlas.Layout
import DocAtlas.Log.Entry
import DocAtlas.Log.Event
import DocAtlas.Log.Filter
import DocAtlas.Main
import DocAtlas.Markup.Pattern
import DocAtlas.Markup.Reference
import DocAtlas.Markup.Title
import DocAtlas.Markup.Toctree
import DocAtlas.Ordering.Stable
import DocAtlas.Ordering.TextSet
import DocAtlas.Output.Contents
import DocAtlas.Output.Corpus
import DocAtlas.Output.Format
import DocAtlas.Output.Json
import DocAtlas.Output.Value
import DocAtlas.Output.Yaml.Render
import DocAtlas.Output.Yaml.Scalar
import DocAtlas.Path.Basic
import DocAtlas.Path.Extension
import DocAtlas.Path.Normal
import DocAtlas.Path.Order
import DocAtlas.Program
import DocAtlas.Project
import DocAtlas.Proofs.Classify.Appending
import DocAtlas.Proofs.Classify.Choice
import DocAtlas.Proofs.Command.Delivery
import DocAtlas.Proofs.Contents.History
import DocAtlas.Proofs.Contents.OrphanOrder
import DocAtlas.Proofs.Contents.Table
import DocAtlas.Proofs.Corpus.Encoding
import DocAtlas.Proofs.Corpus.Location
import DocAtlas.Proofs.Corpus.Marked
import DocAtlas.Proofs.Corpus.Priority
import DocAtlas.Proofs.Layout.Address
import DocAtlas.Proofs.Layout.Extensionless
import DocAtlas.Proofs.Layout.Pruning
import DocAtlas.Proofs.Layout.Reference
import DocAtlas.Proofs.Layout.Relevance
import DocAtlas.Proofs.Markup.Appending
import DocAtlas.Proofs.Markup.Directives
import DocAtlas.Proofs.Markup.Fences
import DocAtlas.Proofs.Markup.Internal
import DocAtlas.Proofs.Markup.OptionBlocks
import DocAtlas.Proofs.Markup.Roles
import DocAtlas.Proofs.Ordering.Stable
import DocAtlas.Proofs.Output.JsonReader
import DocAtlas.Proofs.Output.JsonReading
import DocAtlas.Proofs.Output.JsonReports
import DocAtlas.Proofs.Output.YamlReader
import DocAtlas.Proofs.Output.YamlReading
import DocAtlas.Proofs.Output.YamlReports
import DocAtlas.Proofs.Path.Canonical
import DocAtlas.Proofs.Path.Joining
import DocAtlas.Proofs.Path.Length
import DocAtlas.Proofs.Path.Normal
import DocAtlas.Proofs.Path.Parent
import DocAtlas.Proofs.Path.Renaming
import DocAtlas.Proofs.Path.Spelling
import DocAtlas.Proofs.Path.Trimming
import DocAtlas.Proofs.Project.Opening
import DocAtlas.Proofs.Session.Addressing
import DocAtlas.Proofs.Session.Alike
import DocAtlas.Proofs.Session.History
import DocAtlas.Proofs.Session.Memory
import DocAtlas.Proofs.Session.Survey
import DocAtlas.Proofs.Site.Agreement
import DocAtlas.Proofs.Site.Alike
import DocAtlas.Proofs.Site.Attribution
import DocAtlas.Proofs.Site.Clash
import DocAtlas.Proofs.Site.Coverage
import DocAtlas.Proofs.Site.Events
import DocAtlas.Proofs.Site.Grounded
import DocAtlas.Proofs.Site.Growth
import DocAtlas.Proofs.Site.Harvest
import DocAtlas.Proofs.Site.Identity
import DocAtlas.Proofs.Site.LinkSoundness
import DocAtlas.Proofs.Site.Links
import DocAtlas.Proofs.Site.Naming
import DocAtlas.Proofs.Site.Partition
import DocAtlas.Proofs.Site.Reach
import DocAtlas.Proofs.Site.Reached
import DocAtlas.Proofs.Site.Relevance
import DocAtlas.Proofs.Site.Respect
import DocAtlas.Proofs.Site.Targets
import DocAtlas.Proofs.Text.Lines
import DocAtlas.Proofs.Text.Occurrences
import DocAtlas.Proofs.Text.Runs
import DocAtlas.Proofs.Tree.Agreement
import DocAtlas.Proofs.Tree.Descent
import DocAtlas.Proofs.Tree.Growth
import DocAtlas.Proofs.Tree.Onward
import DocAtlas.Proofs.Tree.Planting
import DocAtlas.Proofs.Tree.Reading
import DocAtlas.Proofs.Tree.Sources
import DocAtlas.Regex.Automaton
import DocAtlas.Regex.Basic
import DocAtlas.Regex.Brackets
import DocAtlas.Regex.Escape
import DocAtlas.Regex.Fault
import DocAtlas.Regex.Match
import DocAtlas.Regex.Nest
import DocAtlas.Regex.Parse
import DocAtlas.Regex.Places
import DocAtlas.Regex.Scan
import DocAtlas.Regex.Simplify
import DocAtlas.Request.Basic
import DocAtlas.Request.Parse
import DocAtlas.Session
import DocAtlas.Site.Basic
import DocAtlas.Site.Contents
import DocAtlas.Site.Discovery
import DocAtlas.Site.Orphans
import DocAtlas.Site.References
import DocAtlas.Site.Toctrees
import DocAtlas.Sum
import DocAtlas.Text.AgeTable
import DocAtlas.Text.Blank
import DocAtlas.Text.ByteRange
import DocAtlas.Text.Case
import DocAtlas.Text.CaseTable
import DocAtlas.Text.CaseVariants
import DocAtlas.Text.CasedTable
import DocAtlas.Text.CategoryTable
import DocAtlas.Text.CharSet
import DocAtlas.Text.GeneralCategory
import DocAtlas.Text.Hex
import DocAtlas.Text.Letter
import DocAtlas.Text.LetterTable
import DocAtlas.Text.Lines
import DocAtlas.Text.Property
import DocAtlas.Text.PropertyName
import DocAtlas.Text.PropertyTable
import DocAtlas.Text.ScriptTable
import DocAtlas.Text.Search
import DocAtlas.Text.Segment
import DocAtlas.Text.Terminal
import DocAtlas.Text.Utf8
import DocAtlas.Toml.Document
import DocAtlas.Toml.Moment
import DocAtlas.Toml.Quoted
import DocAtlas.Tree.Basic
import DocAtlas.Tree.Fault
import DocAtlas.Tree.Listing
import DocAtlas.Tree.Order
import DocAtlas.Tree.Source
import DocAtlas.Tree.Walk
