import Circuitry.Block.Dependency
import Circuitry.Block.Run
import Circuitry.Block.Schedule
import Circuitry.Decimal.Literal
import Circuitry.Decimal.Numeral
import Circuitry.Decimal.Power
import Circuitry.Decimal.Rendering
import Circuitry.Dimension.Basic
import Circuitry.Dimension.Exponent
import Circuitry.Dimension.Named
import Circuitry.Dimension.Rendering
import Circuitry.Expr.Basic
import Circuitry.Expr.Binding
import Circuitry.Expr.Evaluation
import Circuitry.Fault
import Circuitry.Host
import Circuitry.Host.Builtin
import Circuitry.Host.Script
import Circuitry.Kernel.Basic
import Circuitry.Kernel.Capability
import Circuitry.Kernel.Equality
import Circuitry.Kernel.Native
import Circuitry.Kernel.Rendering
import Circuitry.Numbered
import Circuitry.Operator
import Circuitry.PhysicalUnit.Basic
import Circuitry.PhysicalUnit.Catalog
import Circuitry.PhysicalUnit.Expression
import Circuitry.Proofs.Block.Cycle
import Circuitry.Proofs.Block.Equations
import Circuitry.Proofs.Block.Evaluation
import Circuitry.Proofs.Block.FirstCome
import Circuitry.Proofs.Block.Forecast
import Circuitry.Proofs.Block.Order
import Circuitry.Proofs.Block.Outcome
import Circuitry.Proofs.Block.Permutation
import Circuitry.Proofs.Block.Reports
import Circuitry.Proofs.Block.Rescheduling
import Circuitry.Proofs.Block.Run
import Circuitry.Proofs.Block.Schedule
import Circuitry.Proofs.Decimal.Canonical
import Circuitry.Proofs.Decimal.Grammar
import Circuitry.Proofs.Decimal.Literal
import Circuitry.Proofs.Decimal.Numeral
import Circuitry.Proofs.Decimal.Rounding
import Circuitry.Proofs.Dimension.RoundTrip
import Circuitry.Proofs.Expr.Agreement
import Circuitry.Proofs.Expr.Binding
import Circuitry.Proofs.Expr.CallForecast
import Circuitry.Proofs.Expr.Displacement
import Circuitry.Proofs.Expr.Fitting
import Circuitry.Proofs.Expr.Forecast
import Circuitry.Proofs.Expr.Lawfulness
import Circuitry.Proofs.Expr.Occurrence
import Circuitry.Proofs.Expr.Parts
import Circuitry.Proofs.Expr.Placement
import Circuitry.Proofs.Expr.Prediction
import Circuitry.Proofs.Expr.Reference
import Circuitry.Proofs.Expr.Reports
import Circuitry.Proofs.Expr.Silence
import Circuitry.Proofs.Expr.Slots
import Circuitry.Proofs.Expr.Soundness
import Circuitry.Proofs.Host.Callbacks
import Circuitry.Proofs.Host.Contract
import Circuitry.Proofs.Host.Parallel
import Circuitry.Proofs.Kernel.Agreement
import Circuitry.Proofs.Kernel.Capability
import Circuitry.Proofs.Kernel.Decision
import Circuitry.Proofs.Kernel.Everywhere
import Circuitry.Proofs.Kernel.Induction
import Circuitry.Proofs.Kernel.Layer
import Circuitry.Proofs.Kernel.Matching
import Circuitry.Proofs.Kernel.Object
import Circuitry.Proofs.Kernel.Refinement
import Circuitry.Proofs.Kernel.Reordering
import Circuitry.Proofs.Kernel.Sameness
import Circuitry.Proofs.Kernel.WellFormed
import Circuitry.Proofs.Kernel.Whole
import Circuitry.Proofs.Operator.Equality
import Circuitry.Proofs.Operator.Legality
import Circuitry.Proofs.Operator.Refinement
import Circuitry.Proofs.Operator.Typing
import Circuitry.Proofs.PhysicalUnit.Anonymous
import Circuitry.Proofs.PhysicalUnit.Grammar
import Circuitry.Proofs.PhysicalUnit.Power
import Circuitry.Proofs.PhysicalUnit.Reading
import Circuitry.Proofs.PhysicalUnit.Sentence
import Circuitry.Proofs.PhysicalUnit.Symbol
import Circuitry.Proofs.PhysicalUnit.Unexpected
import Circuitry.Proofs.PhysicalUnit.Weighing
import Circuitry.Proofs.Quantity.Arithmetic
import Circuitry.Proofs.Quantity.Base
import Circuitry.Proofs.Quantity.Literal
import Circuitry.Proofs.Quantity.RoundTrip
import Circuitry.Proofs.Report.Account
import Circuitry.Proofs.Report.Notes
import Circuitry.Proofs.Report.Reporting
import Circuitry.Proofs.Scope.Binding
import Circuitry.Proofs.Scope.Context
import Circuitry.Proofs.Scope.Declaration
import Circuitry.Proofs.Scope.Nesting
import Circuitry.Proofs.Scope.Visibility
import Circuitry.Proofs.Session.Depth
import Circuitry.Proofs.Session.Footprint
import Circuitry.Proofs.Session.Isolation
import Circuitry.Proofs.Session.Layering
import Circuitry.Proofs.Session.Layers
import Circuitry.Proofs.Session.Operations
import Circuitry.Proofs.Session.Parameters
import Circuitry.Proofs.Session.Recursion
import Circuitry.Proofs.Session.Settings
import Circuitry.Proofs.Session.Shelter
import Circuitry.Proofs.Session.TemplateCall
import Circuitry.Proofs.Template.Arguments
import Circuitry.Proofs.Template.Instance
import Circuitry.Proofs.Template.Naming
import Circuitry.Proofs.Template.Prediction
import Circuitry.Proofs.Text.Blank
import Circuitry.Proofs.Text.EditDistance
import Circuitry.Proofs.Text.Edits
import Circuitry.Proofs.Text.Suggestion
import Circuitry.Quantity.Basic
import Circuitry.Quantity.Literal
import Circuitry.Record
import Circuitry.Report.Diagnostic
import Circuitry.Report.Reporting
import Circuitry.Report.Span
import Circuitry.Scope.Basic
import Circuitry.Scope.Context
import Circuitry.Session
import Circuitry.Settings
import Circuitry.Stored.Basic
import Circuitry.Stored.Dimensions
import Circuitry.Stored.Report
import Circuitry.Stored.Settings
import Circuitry.Template.Basic
import Circuitry.Text.Blank
import Circuitry.Text.CodeRange
import Circuitry.Text.EditDistance
import Circuitry.Text.Letter
import Circuitry.Text.Printable
import Circuitry.Text.Quoted
import Circuitry.Text.Suggestion
