import Loadable.Address
import Loadable.Argument
import Loadable.ArgumentIter
import Loadable.Arrays
import Loadable.Buffer
import Loadable.Calendar
import Loadable.Callback
import Loadable.Catalog
import Loadable.Checked
import Loadable.Context
import Loadable.Datum
import Loadable.Decimal.Fixed
import Loadable.Decimal.Layout
import Loadable.Decimal.Reader
import Loadable.Decimal.Shortest
import Loadable.Double
import Loadable.Event
import Loadable.Functions.Average
import Loadable.Functions.AverageCost
import Loadable.Functions.Bytes
import Loadable.Functions.Constants
import Loadable.Functions.Groups
import Loadable.Functions.Inspection
import Loadable.Functions.Lookup
import Loadable.Functions.Reals
import Loadable.Functions.Scripted
import Loadable.Functions.Sequence
import Loadable.Functions.Sum
import Loadable.Functions.Texts
import Loadable.Functions.Witnesses
import Loadable.Handler
import Loadable.LittleEndian
import Loadable.Log
import Loadable.Output
import Loadable.Registration.DefaultName
import Loadable.Registration.Expansion
import Loadable.Registration.GivenNames
import Loadable.Registration.Names
import Loadable.Registration.Refusal
import Loadable.Registration.Role
import Loadable.Registration.Shape
import Loadable.Registration.SymbolName
import Loadable.Returns
import Loadable.Routine
import Loadable.Samples
import Loadable.Session
import Loadable.Settings
import Loadable.Source.Attribute
import Loadable.Source.Expr
import Loadable.Source.Generics
import Loadable.Source.Grammar
import Loadable.Source.Implementation
import Loadable.Source.Lexer
import Loadable.Source.Literal
import Loadable.Source.Parser
import Loadable.Source.Path
import Loadable.Source.Pattern
import Loadable.Source.Reading
import Loadable.Source.Statement
import Loadable.Source.Token
import Loadable.Source.Type
import Loadable.Source.TypeExpr
import Loadable.Symbols
import Loadable.Tag
import Loadable.Text.Blank
import Loadable.Text.IdentifierChar
import Loadable.Text.LetterCase
import Loadable.Text.Printable
import Loadable.Text.Quoted
import Loadable.Text.Range
import Loadable.Text.Styled
import Loadable.Text.Utf8
import Loadable.Trace
import Loadable.Value
import Loadable.Proofs.Observation
import Loadable.Proofs.Protocol
import Loadable.Proofs.History
import Loadable.Proofs.Watching
import Loadable.Proofs.Lifetime
import Loadable.Proofs.GroupErrors
import Loadable.Proofs.Reading
import Loadable.Proofs.Requests
import Loadable.Proofs.ArgumentTypes
import Loadable.Proofs.Initialization
import Loadable.Proofs.Moves
import Loadable.Proofs.Outputs
import Loadable.Proofs.Delivery
import Loadable.Proofs.StringResults
import Loadable.Proofs.KeptResults
import Loadable.Proofs.Ownership
import Loadable.Proofs.Exports
import Loadable.Proofs.Nullability
import Loadable.Proofs.Misuse
import Loadable.Proofs.Alike
import Loadable.Proofs.Renewal
import Loadable.Proofs.FailedSteps
import Loadable.Proofs.GroupIndependence
import Loadable.Proofs.Reuse
import Loadable.Proofs.PlainNames
import Loadable.Proofs.Resolution
import Loadable.Proofs.WrittenTypes
import Loadable.Proofs.StateTypes
import Loadable.Proofs.Skipping
import Loadable.Proofs.SymbolNames
import Loadable.Proofs.Running
import Loadable.Proofs.Tallies
import Loadable.Proofs.WindowFrames
import Loadable.Proofs.Undisturbed
import Loadable.Proofs.AskedBetween
import Loadable.Proofs.RowIndependence
import Loadable.Proofs.CallTrace
import Loadable.Proofs.ArgumentArrays
import Loadable.Proofs.AskedTypes
import Loadable.Proofs.Editing
import Loadable.Proofs.UsableSymbols
import Loadable.Proofs.Messages
import Loadable.Proofs.Numerals
import Loadable.Proofs.Casts
import Loadable.Proofs.Medians
import Loadable.Proofs.Positions
import Loadable.Proofs.Sums
import Loadable.Proofs.RowNumbers
import Loadable.Proofs.RowChecks
import Loadable.Proofs.AddressLiterals
import Loadable.Proofs.AddressTexts
import Loadable.Proofs.DefaultNames
import Loadable.Proofs.EntryTexts
import Loadable.Proofs.GivenNames
import Loadable.Proofs.NameChecks
import Loadable.Proofs.ArgumentVisits
