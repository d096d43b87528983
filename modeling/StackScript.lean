import StackScript.Arithmetic
import StackScript.Binary64.Basic
import StackScript.Binary64.Format
import StackScript.Binary64.Nearest
import StackScript.Binary64.Shortest
import StackScript.CommandLine.Arguments
import StackScript.CommandLine.Commands
import StackScript.CommandLine.Folder
import StackScript.CommandLine.Suggestion
import StackScript.Conditions
import StackScript.Datum
import StackScript.Document.Basic
import StackScript.Document.Reader
import StackScript.Document.Writer
import StackScript.Fault
import StackScript.Foreign.Arithmetic
import StackScript.Foreign.Basic
import StackScript.Hexadecimal
import StackScript.Item
import StackScript.Machine
import StackScript.Main
import StackScript.Operator.Basic
import StackScript.Operator.Command
import StackScript.Operator.Instruction
import StackScript.Power
import StackScript.Proofs.BlockNesting
import StackScript.Proofs.ByteWidths
import StackScript.Proofs.CanonicalForms
import StackScript.Proofs.CommandAgreement
import StackScript.Proofs.ConditionLevels
import StackScript.Proofs.CursorMovement
import StackScript.Proofs.CursorReading
import StackScript.Proofs.DecodingFailures
import StackScript.Proofs.DocumentAcceptance
import StackScript.Proofs.DocumentLines
import StackScript.Proofs.DocumentRoundTrip
import StackScript.Proofs.ElementAcceptance
import StackScript.Proofs.Execution
import StackScript.Proofs.ExpressionScripts
import StackScript.Proofs.FailedSteps
import StackScript.Proofs.FloatRange
import StackScript.Proofs.HexadecimalSpelling
import StackScript.Proofs.IntegerArithmetic
import StackScript.Proofs.ItemBoundaries
import StackScript.Proofs.ItemEffects
import StackScript.Proofs.MachineCalls
import StackScript.Proofs.NestingDepth
import StackScript.Proofs.OperandFaults
import StackScript.Proofs.Outcomes
import StackScript.Proofs.ProgramSoundness
import StackScript.Proofs.StackCapacity
import StackScript.Proofs.StackConservation
import StackScript.Proofs.StackFrames
import StackScript.Proofs.StepLimits
import StackScript.Proofs.StructuredPrograms
import StackScript.Proofs.Utf8Inverse
import StackScript.Proofs.ValueSoundness
import StackScript.Proofs.WireGrammar
import StackScript.Proofs.WireIdentity
import StackScript.Proofs.WireRoundTrip
import StackScript.Proofs.WritingFailures
import StackScript.Schema.Printing
import StackScript.Schema.Problem
import StackScript.Schema.Validation
import StackScript.Stack
import StackScript.System.Calculator
import StackScript.System.Evolution
import StackScript.Text.Basic
import StackScript.Text.Blank
import StackScript.Text.Numeral
import StackScript.Text.Quoted
import StackScript.Text.Utf8
import StackScript.Text.Visible
import StackScript.Value.Arithmetic
import StackScript.Value.Basic
import StackScript.Wire.Fault
import StackScript.Wire.Reader
import StackScript.Wire.Width
import StackScript.Wire.Writer
