import Golden.Interpreter.Recorder
import Golden.Main
import Golden.Proofs.Cli.Color
import Golden.Proofs.Cli.ExitCode
import Golden.Proofs.Cli.Forwarding
import Golden.Proofs.Cli.Grammar
import Golden.Proofs.Cli.Invocation
import Golden.Proofs.Cli.NoColor
import Golden.Proofs.Cli.Override
import Golden.Proofs.Cli.Refusal
import Golden.Proofs.Cli.Verbosity
import Golden.Proofs.Config.Acceptance
import Golden.Proofs.Config.Agreement
import Golden.Proofs.Config.Extension
import Golden.Proofs.Config.NoDocument
import Golden.Proofs.Config.Warnings
import Golden.Proofs.Console.Alignment
import Golden.Proofs.Console.Placeholders
import Golden.Proofs.Fault.Classification
import Golden.Proofs.Files.Free
import Golden.Proofs.Fixture.Origin
import Golden.Proofs.Fixture.Transparency
import Golden.Proofs.Interpreter.Input
import Golden.Proofs.Run.CalledOff
import Golden.Proofs.Run.TestCases
import Golden.Proofs.Run.TimeLimit
import Golden.TestCase
