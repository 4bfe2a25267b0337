import ComponentSplit.Artifact
import ComponentSplit.Charset.Basic
import ComponentSplit.Charset.ByteTable
import ComponentSplit.Charset.Chinese
import ComponentSplit.Charset.CodeTable
import ComponentSplit.Charset.Designated
import ComponentSplit.Charset.DoubleByte
import ComponentSplit.Charset.Escaped
import ComponentSplit.Charset.Fault
import ComponentSplit.Charset.Gaps
import ComponentSplit.Charset.Hangul
import ComponentSplit.Charset.HostName
import ComponentSplit.Charset.Japanese
import ComponentSplit.Charset.Korean
import ComponentSplit.Charset.Name
import ComponentSplit.Charset.Punycode
import ComponentSplit.Charset.Scheme
import ComponentSplit.Charset.Table.Big5
import ComponentSplit.Charset.Table.BoxDrawing
import ComponentSplit.Charset.Table.CodePage932
import ComponentSplit.Charset.Table.Desktop
import ComponentSplit.Charset.Table.Gb2312
import ComponentSplit.Charset.Table.Hkscs
import ComponentSplit.Charset.Table.Iso8859
import ComponentSplit.Charset.Table.Jisx0208
import ComponentSplit.Charset.Table.Jisx0212
import ComponentSplit.Charset.Table.Jisx0213
import ComponentSplit.Charset.Table.Ksx1001
import ComponentSplit.Charset.Table.Mainframe
import ComponentSplit.Charset.Table.Regional
import ComponentSplit.Charset.Utf7
import ComponentSplit.Charset.Wide
import ComponentSplit.Command.Arguments
import ComponentSplit.Command.Recipes
import ComponentSplit.Command.Split
import ComponentSplit.Compile
import ComponentSplit.Decimal.Shortest
import ComponentSplit.Digest.Sha256
import ComponentSplit.Document
import ComponentSplit.Emit
import ComponentSplit.Failure
import ComponentSplit.FieldError
import ComponentSplit.Files.Loader
import ComponentSplit.Files.Sink
import ComponentSplit.Files.Tree
import ComponentSplit.Job
import ComponentSplit.Log
import ComponentSplit.Logging.Config
import ComponentSplit.Logging.Setup
import ComponentSplit.Main
import ComponentSplit.Markup.Ampersand
import ComponentSplit.Markup.Declaration
import ComponentSplit.Markup.EndTag
import ComponentSplit.Markup.Entities
import ComponentSplit.Markup.Lexeme
import ComponentSplit.Markup.Reference
import ComponentSplit.Markup.StartTag
import ComponentSplit.Markup.Token
import ComponentSplit.Merge
import ComponentSplit.Options
import ComponentSplit.Path.FilePath
import ComponentSplit.Path.Lexical
import ComponentSplit.Path.Name
import ComponentSplit.Pattern.Basic
import ComponentSplit.Pattern.Fault
import ComponentSplit.Pattern.Letter
import ComponentSplit.Pattern.Match
import ComponentSplit.Pattern.Reader
import ComponentSplit.Pipeline.Context
import ComponentSplit.Pipeline.Outcome
import ComponentSplit.Pipeline.Run
import ComponentSplit.Pipeline.Schedule
import ComponentSplit.Proofs.Markup.EndTag
import ComponentSplit.Proofs.Markup.RawText
import ComponentSplit.Proofs.Markup.Tag
import ComponentSplit.Proofs.Markup.WrittenTag
import ComponentSplit.Proofs.Pattern.Chain
import ComponentSplit.Proofs.Pattern.Letter
import ComponentSplit.Proofs.Pattern.Written
import ComponentSplit.Proofs.Section.FirstEndTag
import ComponentSplit.Proofs.Section.Geometry
import ComponentSplit.Proofs.Section.Position
import ComponentSplit.Proofs.Section.Reading
import ComponentSplit.Proofs.Section.RoundTrip
import ComponentSplit.Proofs.Section.Step
import ComponentSplit.Proofs.Section.TemplateBody
import ComponentSplit.Proofs.Stylesheet.Insertion
import ComponentSplit.Proofs.Stylesheet.Part
import ComponentSplit.Proofs.Stylesheet.Piece
import ComponentSplit.Proofs.Stylesheet.SelectorList
import ComponentSplit.Proofs.Text.Cut
import ComponentSplit.Proofs.Text.Marked
import ComponentSplit.Proofs.Text.Trim
import ComponentSplit.Registry
import ComponentSplit.Section.Basic
import ComponentSplit.Section.Census
import ComponentSplit.Section.Parse
import ComponentSplit.Section.Position
import ComponentSplit.Settings.Basic
import ComponentSplit.Settings.DotEnv
import ComponentSplit.Settings.Environment
import ComponentSplit.Settings.Integer
import ComponentSplit.Stylesheet.Piece
import ComponentSplit.Stylesheet.Scope
import ComponentSplit.Stylesheet.Selector
import ComponentSplit.Template.Scope
import ComponentSplit.Text.Alphanumeric
import ComponentSplit.Text.Blank
import ComponentSplit.Text.Digits
import ComponentSplit.Text.Fields
import ComponentSplit.Text.Identifier
import ComponentSplit.Text.Indent
import ComponentSplit.Text.Lines
import ComponentSplit.Text.Lowercase
import ComponentSplit.Text.Marked
import ComponentSplit.Text.Numeral
import ComponentSplit.Text.Printable
import ComponentSplit.Text.Quoted
import ComponentSplit.Text.Runs
import ComponentSplit.Text.Utf8
import ComponentSplit.Value
import ComponentSplit.Yaml.Content
import ComponentSplit.Yaml.Cursor
import ComponentSplit.Yaml.Event
import ComponentSplit.Yaml.Fault
import ComponentSplit.Yaml.Node
import ComponentSplit.Yaml.Number
import ComponentSplit.Yaml.Property
import ComponentSplit.Yaml.Resolution
import ComponentSplit.Yaml.Scalar
import ComponentSplit.Yaml.Token
import ComponentSplit.Proofs.Stylesheet.Concatenation
import ComponentSplit.Proofs.Stylesheet.WrittenSelector
import ComponentSplit.Proofs.Stylesheet.SelectorMark
import ComponentSplit.Proofs.Stylesheet.WrittenSheet
import ComponentSplit.Proofs.Stylesheet.Grouping
import ComponentSplit.Proofs.Stylesheet.CssToken
import ComponentSplit.Proofs.Stylesheet.TokenPlace
import ComponentSplit.Proofs.Stylesheet.TokenScope
import ComponentSplit.Proofs.Pipeline.Result
import ComponentSplit.Proofs.Pipeline.Merge
import ComponentSplit.Proofs.Pipeline.InOrder
import ComponentSplit.Proofs.Pipeline.Delivery
import ComponentSplit.Proofs.Pipeline.Unreadable
import ComponentSplit.Proofs.Pipeline.Outcome
import ComponentSplit.Proofs.Pipeline.Traffic
import ComponentSplit.Proofs.Pipeline.Landing
import ComponentSplit.Proofs.Pipeline.Isolation
import ComponentSplit.Proofs.Markup.Fault
import ComponentSplit.Proofs.Markup.Trap
import ComponentSplit.Proofs.Section.Breaking
import ComponentSplit.Proofs.Section.Malformed
import ComponentSplit.Proofs.Pipeline.Stream
import ComponentSplit.Proofs.Pipeline.Rounds
import ComponentSplit.Proofs.Pipeline.Traced
import ComponentSplit.Proofs.Path.Place
import ComponentSplit.Proofs.Files.Relocation
import ComponentSplit.Proofs.Files.Rewriting
import ComponentSplit.Proofs.Pipeline.Messages
import ComponentSplit.Proofs.Pipeline.Reports
import ComponentSplit.Proofs.Pipeline.Precedence
import ComponentSplit.Proofs.Pipeline.Scoping
import ComponentSplit.Proofs.Path.Output
import ComponentSplit.Proofs.Pipeline.Naming
import ComponentSplit.Proofs.Stylesheet.SelectorCount
import ComponentSplit.Proofs.Markup.SpacedTag
import ComponentSplit.Proofs.Markup.TokenRun
import ComponentSplit.Proofs.Template.Marks
import ComponentSplit.Proofs.Template.ScopedMarkup
import ComponentSplit.Proofs.Section.Line
import ComponentSplit.Proofs.Section.FaultPlace
import ComponentSplit.Proofs.Pipeline.PartOrder
import ComponentSplit.Proofs.Registry.Building
import ComponentSplit.Proofs.Registry.Accounting
import ComponentSplit.Proofs.Pipeline.Emptiness
import ComponentSplit.Proofs.Text.Indent
import ComponentSplit.Proofs.Text.Returns
import ComponentSplit.Proofs.Text.Utf8
import ComponentSplit.Proofs.Text.Utf8Fault
import ComponentSplit.Proofs.Document
import ComponentSplit.Proofs.Logging.Reading
import ComponentSplit.Proofs.Logging.FirstUse
import ComponentSplit.Proofs.Logging.FirstReading
