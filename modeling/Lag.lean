import Lag.Calendar
import Lag.Check
import Lag.Check.Failure
import Lag.Check.Mark
import Lag.CommandLine.Console
import Lag.CommandLine.Grammar
import Lag.CommandLine.Perform
import Lag.CommandLine.Request
import Lag.Compile
import Lag.Document
import Lag.Document.Bytes
import Lag.Document.Cursor
import Lag.Document.Fault
import Lag.Document.Lexeme
import Lag.Document.Lexeme.Name
import Lag.Document.Lexeme.Scalar
import Lag.Document.Lexeme.Scan
import Lag.Document.Meaning
import Lag.Document.Node
import Lag.Document.Pen
import Lag.Document.Tag
import Lag.Document.Write
import Lag.Event
import Lag.Files
import Lag.Host.Limit
import Lag.Host.Lower
import Lag.Host.Name
import Lag.Host.Print
import Lag.Host.Tree
import Lag.Log
import Lag.Main
import Lag.Number.Binary
import Lag.Number.Places
import Lag.Number.Reading
import Lag.Number.Shortest
import Lag.Proofs.Accepted
import Lag.Proofs.Delivery
import Lag.Proofs.Excerpt.Carets
import Lag.Proofs.Excerpt.Lines
import Lag.Proofs.Excerpt.Quoted
import Lag.Proofs.Grammar.Accepts
import Lag.Proofs.Grammar.Complete
import Lag.Proofs.Grammar.Decided
import Lag.Proofs.Grammar.Reads
import Lag.Proofs.Grammar.Sound
import Lag.Proofs.Layout.Items
import Lag.Proofs.Layout.Kept
import Lag.Proofs.Layout.Lines
import Lag.Proofs.Layout.Outlined
import Lag.Proofs.Layout.Reading
import Lag.Proofs.Layout.Texts
import Lag.Proofs.Limits.Built
import Lag.Proofs.Limits.Lines
import Lag.Proofs.Limits.Named
import Lag.Proofs.Limits.Refused
import Lag.Proofs.Limits.Texts
import Lag.Proofs.Limits.Words
import Lag.Proofs.Naming.Apart
import Lag.Proofs.Naming.Ending
import Lag.Proofs.Naming.Free
import Lag.Proofs.Naming.Separate
import Lag.Proofs.Naming.Words
import Lag.Proofs.Nesting.Stack
import Lag.Proofs.Reading.Grammar
import Lag.Proofs.Reading.Kept
import Lag.Proofs.Reading.Lexed
import Lag.Proofs.Reading.Parsed
import Lag.Proofs.Reading.Written
import Lag.Proofs.Run.Alike
import Lag.Proofs.Scoping.Assigned
import Lag.Proofs.Scoping.Called
import Lag.Proofs.Scoping.Evaluated
import Lag.Proofs.Scoping.Executed
import Lag.Proofs.Scoping.Framed
import Lag.Proofs.Scoping.Layout
import Lag.Proofs.Scoping.Machine
import Lag.Proofs.Scoping.Placed
import Lag.Proofs.Scoping.Preserved
import Lag.Proofs.Scoping.Related
import Lag.Proofs.Scoping.Simulates
import Lag.Proofs.Soundness.Answered
import Lag.Proofs.Soundness.Ensures
import Lag.Proofs.Soundness.First
import Lag.Proofs.Soundness.Flowing
import Lag.Proofs.Soundness.Orderly
import Lag.Proofs.Soundness.Reached
import Lag.Proofs.Soundness.Sound
import Lag.Proofs.Spacing
import Lag.Proofs.Token.Consumed
import Lag.Proofs.Token.Gaps
import Lag.Proofs.Token.Lengths
import Lag.Proofs.Token.Numerals
import Lag.Proofs.Token.Placed
import Lag.Proofs.Token.Tiled
import Lag.Proofs.Tree.Branches
import Lag.Proofs.Tree.Moved
import Lag.Proofs.Tree.Nested
import Lag.Proofs.Tree.Numbered
import Lag.Proofs.Tree.Outlined
import Lag.Proofs.Tree.Read
import Lag.Proofs.Tree.Regular
import Lag.Proofs.Tree.Scanned
import Lag.Proofs.Typing.Added
import Lag.Proofs.Typing.Chains
import Lag.Proofs.Typing.Checked
import Lag.Proofs.Typing.Decided
import Lag.Proofs.Typing.Expressions
import Lag.Proofs.Typing.Followed
import Lag.Proofs.Typing.Journal
import Lag.Proofs.Typing.Limited
import Lag.Proofs.Typing.Moved
import Lag.Proofs.Typing.Occurring
import Lag.Proofs.Typing.Overrun
import Lag.Proofs.Typing.Passing
import Lag.Proofs.Typing.Proper
import Lag.Proofs.Typing.Rules
import Lag.Proofs.Typing.Statements
import Lag.Proofs.Watch.Functions
import Lag.Proofs.Watch.Inline
import Lag.Proofs.Watch.Isolated
import Lag.Proofs.Watch.Noticed
import Lag.Proofs.Watch.Played
import Lag.Proofs.Watch.Registered
import Lag.Proofs.Watch.Scene
import Lag.Proofs.Watch.Sessions
import Lag.Proofs.Watch.Single
import Lag.Proofs.Watch.Steady
import Lag.Proofs.World.Current
import Lag.Proofs.World.Deleted
import Lag.Proofs.World.Directory
import Lag.Proofs.World.Fresh
import Lag.Proofs.World.Latest
import Lag.Proofs.World.Loading
import Lag.Proofs.World.Marked
import Lag.Proofs.World.Operations
import Lag.Proofs.World.Renumbered
import Lag.Proofs.World.Tables
import Lag.Proofs.World.Undisturbed
import Lag.Proofs.World.Verdict
import Lag.Proofs.World.Within
import Lag.Proofs.Writing.Chains
import Lag.Proofs.Writing.Complete
import Lag.Proofs.Writing.Effects
import Lag.Proofs.Writing.Expressions
import Lag.Proofs.Writing.Modules
import Lag.Proofs.Writing.Statements
import Lag.Proofs.Writing.Walk
import Lag.Run.Basic
import Lag.Run.Fill
import Lag.Run.Given
import Lag.Run.Machine
import Lag.Run.Operate
import Lag.Run.Trouble
import Lag.Script
import Lag.Session
import Lag.Settings
import Lag.Source.Diagnostic
import Lag.Source.Span
import Lag.Symbol
import Lag.Table
import Lag.Text.Case
import Lag.Text.Compatibility
import Lag.Text.Digit
import Lag.Text.Letter
import Lag.Text.Lines
import Lag.Text.Path
import Lag.Text.Printable
import Lag.Text.Quoted
import Lag.Text.Ranges
import Lag.Text.Utf8
import Lag.Text.Word
import Lag.Token
import Lag.Token.Scan
import Lag.Tree
import Lag.Tree.Branch
import Lag.Tree.Numbering
import Lag.Tree.Parse
import Lag.Ty
import Lag.Value
import Lag.World.Basic
import Lag.World.Engine
import Lag.World.Watch
