import MailQuery.Clamp
import MailQuery.Cli.Arguments
import MailQuery.Cli.Json
import MailQuery.Cli.Layout
import MailQuery.Cli.Run
import MailQuery.Config.Basic
import MailQuery.Config.Settings
import MailQuery.Data.SortedMap
import MailQuery.Data.TextSet
import MailQuery.Digest.Sha256
import MailQuery.Error
import MailQuery.Expr.Builtin
import MailQuery.Expr.Parser
import MailQuery.Expr.Term
import MailQuery.Expr.Token
import MailQuery.Files.Binary
import MailQuery.Files.Disk
import MailQuery.Files.Path
import MailQuery.Folder.Basic
import MailQuery.Folder.Cache
import MailQuery.Folder.Mailbox
import MailQuery.Folder.Session
import MailQuery.Index.Basic
import MailQuery.Index.Format
import MailQuery.Index.Site
import MailQuery.Mail.Address
import MailQuery.Mail.Body
import MailQuery.Mail.ContentType
import MailQuery.Mail.Date
import MailQuery.Mail.EncodedWord
import MailQuery.Mail.Field
import MailQuery.Mail.Flags
import MailQuery.Mail.Header
import MailQuery.Mail.Html
import MailQuery.Mail.Html.Entity
import MailQuery.Mail.Mailbox
import MailQuery.Mail.Message
import MailQuery.Mail.Summary
import MailQuery.Mail.TransferEncoding
import MailQuery.Pattern.CharSet
import MailQuery.Pattern.Match
import MailQuery.Pattern.Reader
import MailQuery.Search.Arithmetic
import MailQuery.Search.Dates
import MailQuery.Search.Evaluator
import MailQuery.Search.Forest
import MailQuery.Search.HeaderMatch
import MailQuery.Search.MessageTest
import MailQuery.Search.Reading
import MailQuery.Search.References
import MailQuery.Search.Routing
import MailQuery.Search.Scope
import MailQuery.Search.Soundex
import MailQuery.Search.Subject
import MailQuery.Search.WordIndex
import MailQuery.Search.Words
import MailQuery.Sql.Cell
import MailQuery.Sql.Column
import MailQuery.Sql.Eval
import MailQuery.Sql.Expr
import MailQuery.Sql.Lexer
import MailQuery.Sql.Limits
import MailQuery.Sql.Operand
import MailQuery.Sql.Reader
import MailQuery.Sql.RealText
import MailQuery.Sql.StackCompiler
import MailQuery.Sql.Statement
import MailQuery.Sql.Syntax
import MailQuery.Sql.TreeCompiler
import MailQuery.Store.Basic
import MailQuery.Store.Format
import MailQuery.Store.Row
import MailQuery.Text.Alphanumeric
import MailQuery.Text.Ascii
import MailQuery.Text.Blank
import MailQuery.Text.Case
import MailQuery.Text.Case.Table
import MailQuery.Text.CharRange
import MailQuery.Text.Charset
import MailQuery.Text.Find
import MailQuery.Text.Utf8
import MailQuery.Text.WordChar
import MailQuery.Time.Civil
import MailQuery.Time.Iso
import MailQuery.Time.Moment
import MailQuery.Time.Reader
import MailQuery.Toml.Document
import MailQuery.Toml.Node
import MailQuery.Toml.Scalar
import MailQuery.Toml.Text
import MailQuery.Value
import MailQuery.Main
import MailQuery.Proofs.Threads.Links
import MailQuery.Proofs.Threads.Linking
import MailQuery.Proofs.Threads.Forest
import MailQuery.Proofs.Compilers.Grammar
import MailQuery.Proofs.Compilers.Values
import MailQuery.Proofs.Compilers.Conditions
import MailQuery.Proofs.WordIndex.Lookup
import MailQuery.Proofs.WordIndex.Runs
import MailQuery.Proofs.Folders.Contents
import MailQuery.Proofs.Folders.InMemory
import MailQuery.Proofs.Evaluation.Equations
import MailQuery.Proofs.WordIndex.Accelerator
import MailQuery.Proofs.WordIndex.Vocabulary
import MailQuery.Proofs.Sql.Cells
import MailQuery.Proofs.Sql.Words
import MailQuery.Proofs.Sql.Spelling
import MailQuery.Proofs.Sql.Reading
import MailQuery.Proofs.Sql.Statements
import MailQuery.Proofs.Sql.Bounds
import MailQuery.Proofs.Sql.Texts
import MailQuery.Proofs.Expr.Printing
import MailQuery.Proofs.Routes.Operands
import MailQuery.Proofs.Routes.Conditions
import MailQuery.Proofs.Routes.Searches
import MailQuery.Proofs.Folders.Synced
import MailQuery.Proofs.Routes.Agreement
import MailQuery.Proofs.Compilers.Readability
import MailQuery.Proofs.Compilers.Confinement
import MailQuery.Proofs.Files.Coding
import MailQuery.Proofs.Index.Coding
import MailQuery.Proofs.Mailbox.Partition
import MailQuery.Proofs.Index.Interruption
import MailQuery.Proofs.Folders.Operations
import MailQuery.Proofs.Folders.UpToDate
import MailQuery.Proofs.Routes.Sessions
import MailQuery.Proofs.Evaluation.Modes
import MailQuery.Proofs.Index.Persistence
import MailQuery.Proofs.Index.Staleness
import MailQuery.Proofs.Threads.Ancestry
import MailQuery.Proofs.Threads.Identities
import MailQuery.Proofs.Threads.Rebuilding
import MailQuery.Proofs.Evaluation.Agreeing
import MailQuery.Proofs.Evaluation.Narrowing
import MailQuery.Proofs.Routes.Subsets
import MailQuery.Proofs.Evaluation.Settling
import MailQuery.Proofs.Routes.Coverings
import MailQuery.Proofs.Routes.Inclusion
import MailQuery.Proofs.Folders.Fetches
import MailQuery.Proofs.Routes.Routing
import MailQuery.Proofs.Routes.Complements
import MailQuery.Proofs.Routes.WholeSubjects
import MailQuery.Proofs.Threads.Expansions
import MailQuery.Proofs.Threads.Takeovers
import MailQuery.Proofs.Text.LowerCase
import MailQuery.Proofs.WordIndex.Retrieval
import MailQuery.Proofs.Routes.ThreadSubsets
import MailQuery.Proofs.Evaluation.SingleMessage
import MailQuery.Proofs.Evaluation.Reaching
import MailQuery.Proofs.Folders.Shortened
import MailQuery.Proofs.Evaluation.WholeFolder
import MailQuery.Proofs.Evaluation.Footprint
import MailQuery.Proofs.Routes.DroppedMessages
import MailQuery.Proofs.Mailbox.Lines
import MailQuery.Proofs.Mailbox.Truncation
import MailQuery.Proofs.Mailbox.HeaderBlock
import MailQuery.Proofs.Index.Building
import MailQuery.Proofs.Expr.Acceptance
import MailQuery.Proofs.Text.Pieces
import MailQuery.Proofs.Text.Letters
import MailQuery.Proofs.Headers.Addresses
import MailQuery.Proofs.Headers.Phrases
import MailQuery.Proofs.Headers.Matching
import MailQuery.Proofs.Headers.StoredAddresses
import MailQuery.Proofs.Folders.Writing
import MailQuery.Proofs.Time.Calendar
import MailQuery.Proofs.Time.PackedDates
import MailQuery.Proofs.Compilers.Malformed
import MailQuery.Proofs.Routes.Counting
import MailQuery.Proofs.Evaluation.Reordering
import MailQuery.Proofs.Threads.Subjects
import MailQuery.Proofs.Expr.Joining
import MailQuery.Proofs.Compilers.Stacks
import MailQuery.Proofs.Headers.Unfolding
