import LivingDoc.Citation
import LivingDoc.Commentary
import LivingDoc.Draft
import LivingDoc.Event
import LivingDoc.Event.Directive
import LivingDoc.Event.Journal
import LivingDoc.Gherkin.Comments
import LivingDoc.Gherkin.Dialect
import LivingDoc.Gherkin.DocString
import LivingDoc.Gherkin.Document
import LivingDoc.Gherkin.Grammar
import LivingDoc.Gherkin.Header
import LivingDoc.Gherkin.Raw
import LivingDoc.Gherkin.Reader
import LivingDoc.Gherkin.StepWords
import LivingDoc.Page.Basic
import LivingDoc.Page.Section
import LivingDoc.Page.Table
import LivingDoc.Pattern
import LivingDoc.Pattern.Escape
import LivingDoc.Pattern.Group
import LivingDoc.Pattern.Nesting
import LivingDoc.Pattern.Scan
import LivingDoc.Pattern.Set
import LivingDoc.Position
import LivingDoc.Proofs.Agreement
import LivingDoc.Proofs.Assembly
import LivingDoc.Proofs.Association
import LivingDoc.Proofs.Attribution
import LivingDoc.Proofs.Citation
import LivingDoc.Proofs.Commentary
import LivingDoc.Proofs.Conservation
import LivingDoc.Proofs.Contents
import LivingDoc.Proofs.Draft
import LivingDoc.Proofs.Fences
import LivingDoc.Proofs.Hiding
import LivingDoc.Proofs.Insertion
import LivingDoc.Proofs.Lexemes
import LivingDoc.Proofs.Lines
import LivingDoc.Proofs.Margin
import LivingDoc.Proofs.Mirror
import LivingDoc.Proofs.Obscured
import LivingDoc.Proofs.Offence
import LivingDoc.Proofs.Placement
import LivingDoc.Proofs.Publication
import LivingDoc.Proofs.Reading
import LivingDoc.Proofs.Scan
import LivingDoc.Proofs.Tagging
import LivingDoc.Proofs.Tracking
import LivingDoc.Publisher
import LivingDoc.Remark.Basic
import LivingDoc.Remark.Placement
import LivingDoc.Settings
import LivingDoc.Severity
import LivingDoc.Slug
import LivingDoc.Source
import LivingDoc.TagFilter
import LivingDoc.Tagging
import LivingDoc.Text.Basic
import LivingDoc.Text.Byte
import LivingDoc.Text.Line
import LivingDoc.Text.Number
import LivingDoc.Text.Quoted
import LivingDoc.Unicode.Alphabetic
import LivingDoc.Unicode.Blank
import LivingDoc.Unicode.DecimalDigit
import LivingDoc.Unicode.Lowercase
import LivingDoc.Unicode.Mark
import LivingDoc.Unicode.Newcomer
import LivingDoc.Unicode.Numeral
import LivingDoc.Unicode.Range
import LivingDoc.Unicode.Unprinted
import LivingDoc.Unicode.Word
import LivingDoc.Vocabulary
import LivingDoc.Proofs.Passes
import LivingDoc.Proofs.Reordering
import LivingDoc.Proofs.Retention
import LivingDoc.Proofs.Suppression
import LivingDoc.Proofs.Account
import LivingDoc.Proofs.Derivation
import LivingDoc.Proofs.Proximity
import LivingDoc.Proofs.Theme
import LivingDoc.Proofs.Blocks
import LivingDoc.Proofs.Notation
import LivingDoc.Proofs.Heading
import LivingDoc.Proofs.Rows
import LivingDoc.Proofs.Slug
import LivingDoc.Proofs.TagFilter
import LivingDoc.Proofs.LetterCase
import LivingDoc.Proofs.SmallLetters
import LivingDoc.Proofs.Identifiers
import LivingDoc.Proofs.Expression
import LivingDoc.Proofs.Journal
