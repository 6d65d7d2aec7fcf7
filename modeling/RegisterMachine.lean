import RegisterMachine.Assembler
import RegisterMachine.CommandLine
import RegisterMachine.Main
import RegisterMachine.Program.Layout
import RegisterMachine.Proofs.Assembler.Clause
import RegisterMachine.Proofs.Source.Lines
import RegisterMachine.Proofs.Source.Words
import RegisterMachine.Proofs.Table
import RegisterMachine.Proofs.Text.Decimal
import RegisterMachine.Proofs.Text.Quoted
import RegisterMachine.Session
import RegisterMachine.Settings.Reading
import RegisterMachine.Proofs.Assembler.Transcript
import RegisterMachine.Proofs.Assembler.Grammar
import RegisterMachine.Proofs.Assembler.Acceptance
import RegisterMachine.Proofs.Assembler.WellFormed
import RegisterMachine.Proofs.Assembler.Expressions
import RegisterMachine.Proofs.Assembler.Breakdown
import RegisterMachine.Proofs.Program.Listing
import RegisterMachine.Proofs.Machine.Execution
import RegisterMachine.Proofs.Machine.Safety
import RegisterMachine.Proofs.Machine.Tick
import RegisterMachine.Proofs.Machine.StackDiscipline
import RegisterMachine.Proofs.Machine.StackLimit
import RegisterMachine.Proofs.Machine.Run
import RegisterMachine.Proofs.Session.StepLimit
import RegisterMachine.Proofs.Assembler.Rejection
import RegisterMachine.Proofs.Machine.LastResult
import RegisterMachine.Proofs.Session.Location
import RegisterMachine.Proofs.Console.Words
import RegisterMachine.Proofs.Machine.Consoles
import RegisterMachine.Proofs.Session.InputTokens
import RegisterMachine.Proofs.Assembler.Concatenation
import RegisterMachine.Proofs.Assembler.Layout
import RegisterMachine.Proofs.Assembler.History
import RegisterMachine.Proofs.Program.Relisting
import RegisterMachine.Proofs.Console.Outputs
import RegisterMachine.Proofs.Machine.Printing
import RegisterMachine.Proofs.Machine.Reset
import RegisterMachine.Proofs.Console.Consumption
import RegisterMachine.Proofs.Console.Switching
import RegisterMachine.Proofs.Console.Numbers
import RegisterMachine.Proofs.CommandLine.Progress
import RegisterMachine.Proofs.CommandLine.ScriptName
import RegisterMachine.Proofs.Machine.InstructionTable
import RegisterMachine.Proofs.Machine.TornFaults
import RegisterMachine.Proofs.Machine.LoopCount
import RegisterMachine.Proofs.Machine.ForwardPrograms
import RegisterMachine.Proofs.Source.Tokens
import RegisterMachine.Proofs.Assembler.Equates
import RegisterMachine.Proofs.Program.Presentation
