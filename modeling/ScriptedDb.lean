import ScriptedDb.Argument
import ScriptedDb.Call
import ScriptedDb.ConnectionTable
import ScriptedDb.Dispatch.Report
import ScriptedDb.Dispatch.Scan
import ScriptedDb.Error
import ScriptedDb.Event
import ScriptedDb.ExecResult
import ScriptedDb.Expectation.Basic
import ScriptedDb.Expectation.Describe
import ScriptedDb.Expectation.Fit
import ScriptedDb.Expectation.Refinement
import ScriptedDb.Fault
import ScriptedDb.History
import ScriptedDb.Json.Document
import ScriptedDb.Json.Failure
import ScriptedDb.Json.Ignored
import ScriptedDb.Json.Parser
import ScriptedDb.Json.Printer
import ScriptedDb.Json.Scan
import ScriptedDb.Json.Typed
import ScriptedDb.Number.Binary64
import ScriptedDb.Number.FloatText
import ScriptedDb.Number.Numeral
import ScriptedDb.Number.Rounding
import ScriptedDb.Number.Shortest
import ScriptedDb.Pattern.Automaton.ClassStates
import ScriptedDb.Pattern.Automaton.Growth
import ScriptedDb.Pattern.Automaton.LiteralTree
import ScriptedDb.Pattern.Automaton.Size
import ScriptedDb.Pattern.Beginning
import ScriptedDb.Pattern.Bracket
import ScriptedDb.Pattern.CharClass
import ScriptedDb.Pattern.Escape
import ScriptedDb.Pattern.Fault
import ScriptedDb.Pattern.Flags
import ScriptedDb.Pattern.Match
import ScriptedDb.Pattern.Parser
import ScriptedDb.Pattern.Property
import ScriptedDb.Pattern.Syntax
import ScriptedDb.Pattern.Table.Age
import ScriptedDb.Pattern.Table.BinaryProperty
import ScriptedDb.Pattern.Table.CaseVariant
import ScriptedDb.Pattern.Table.GeneralCategory
import ScriptedDb.Pattern.Table.GraphemeBreak
import ScriptedDb.Pattern.Table.Script
import ScriptedDb.Pattern.Table.ScriptExtension
import ScriptedDb.Pattern.Table.SentenceBreak
import ScriptedDb.Pattern.Table.WordBreak
import ScriptedDb.Pattern.Table.WordCharacter
import ScriptedDb.Proofs.Accounting
import ScriptedDb.Proofs.Capacity
import ScriptedDb.Proofs.Counter
import ScriptedDb.Proofs.Descriptions
import ScriptedDb.Proofs.Dispatch
import ScriptedDb.Proofs.Modes
import ScriptedDb.Proofs.Precedence
import ScriptedDb.Proofs.Projection
import ScriptedDb.Proofs.Race.Identical
import ScriptedDb.Proofs.Race.Linearization
import ScriptedDb.Proofs.Race.Progress
import ScriptedDb.Proofs.Race.Run
import ScriptedDb.Proofs.Race.Serial
import ScriptedDb.Proofs.Scan
import ScriptedDb.Proofs.Session.Claims
import ScriptedDb.Proofs.Session.Serve
import ScriptedDb.QueryPattern
import ScriptedDb.Race
import ScriptedDb.Rows.Basic
import ScriptedDb.Rows.Csv
import ScriptedDb.Rows.Fixture
import ScriptedDb.Rows.Folder
import ScriptedDb.Session.Basic
import ScriptedDb.Session.Calls
import ScriptedDb.Session.Operation
import ScriptedDb.Session.Request
import ScriptedDb.Text.Blank
import ScriptedDb.Text.CodeRanges
import ScriptedDb.Text.CodeRanges.Algebra
import ScriptedDb.Text.Combining
import ScriptedDb.Text.Letters
import ScriptedDb.Text.Quoted
import ScriptedDb.Text.Unprintable
import ScriptedDb.Text.Utf8
import ScriptedDb.Text.Utf8.Spans
import ScriptedDb.Value.Agreement
import ScriptedDb.Value.Basic
import ScriptedDb.Value.Codec
import ScriptedDb.Value.Order
import ScriptedDb.World
import ScriptedDb.World.Operation
import ScriptedDb.Proofs.Session.Chronicle
import ScriptedDb.Proofs.Verification
import ScriptedDb.Clients
import ScriptedDb.Proofs.Clients.Table
import ScriptedDb.Proofs.Clients.Steps
import ScriptedDb.Proofs.Clients.Count
import ScriptedDb.Proofs.Connections
import ScriptedDb.Proofs.Permanence
import ScriptedDb.Proofs.Delivery
import ScriptedDb.Proofs.Draining
import ScriptedDb.Proofs.Tolerance
import ScriptedDb.Proofs.Words
import ScriptedDb.Proofs.Statements
import ScriptedDb.Proofs.Rectangular
import ScriptedDb.Rows.CsvLayout
import ScriptedDb.Proofs.CsvText
import ScriptedDb.Json.Spelling
import ScriptedDb.Proofs.Json.Tokens
import ScriptedDb.Proofs.Json.Integers
import ScriptedDb.Proofs.Json.Structure
import ScriptedDb.Proofs.Json.Printed
import ScriptedDb.Rows.FixtureLayout
import ScriptedDb.Proofs.FixtureText
import ScriptedDb.Proofs.RowText
import ScriptedDb.Proofs.Independence
import ScriptedDb.Proofs.Inert
import ScriptedDb.Proofs.Log
import ScriptedDb.Proofs.Queries
import ScriptedDb.Rows.Reading
import ScriptedDb.Proofs.Reading
import ScriptedDb.Json.DocumentLayout
import ScriptedDb.Proofs.Json.Members
import ScriptedDb.Proofs.Json.Documents
import ScriptedDb.Proofs.Agreement
import ScriptedDb.Number.Exact
import ScriptedDb.Json.WellFormed
import ScriptedDb.Proofs.Number.NumericValue
import ScriptedDb.Proofs.Number.Rounding
import ScriptedDb.Proofs.Json.Numbers
import ScriptedDb.Proofs.Json.Parsed
import ScriptedDb.Proofs.Json.Comparing
import ScriptedDb.Proofs.ValueOrder
import ScriptedDb.Proofs.Comparison
import ScriptedDb.Proofs.IntegerAgreement
import ScriptedDb.Proofs.StoredJson
import ScriptedDb.Proofs.Utf8
import ScriptedDb.Proofs.TextAgreement
import ScriptedDb.Proofs.Sorting
import ScriptedDb.Number.Spelling
import ScriptedDb.Proofs.Number.Numerals
import ScriptedDb.Proofs.CellKinds
import ScriptedDb.Text.SelfDelimiting
import ScriptedDb.Proofs.Text.Quoted
import ScriptedDb.Proofs.ArgumentLists
import ScriptedDb.Proofs.ArgumentMatching
