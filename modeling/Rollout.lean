import Rollout.Abi.Call
import Rollout.Abi.Interface
import Rollout.Abi.Literal
import Rollout.Abi.Parameter
import Rollout.Abi.Signature
import Rollout.Abi.Ty
import Rollout.Abi.TypeText
import Rollout.Abi.Value
import Rollout.Address
import Rollout.Artifact.Basic
import Rollout.Bytecode.Template
import Rollout.CommandLine.Arguments
import Rollout.CommandLine.Commands
import Rollout.Config.Basic
import Rollout.Config.Environment
import Rollout.Domain.Basic
import Rollout.Domain.Direction
import Rollout.Domain.Joiner
import Rollout.Domain.Mapping
import Rollout.Domain.PlainForm
import Rollout.Domain.Punycode
import Rollout.Failure
import Rollout.Graph.Basic
import Rollout.Graph.Guarded
import Rollout.Json.Basic
import Rollout.Json.Document
import Rollout.Json.Excess
import Rollout.Json.Printer
import Rollout.Json.Reader
import Rollout.Main
import Rollout.Manifest.Argument
import Rollout.Manifest.Basic
import Rollout.Network
import Rollout.Plan.Basic
import Rollout.Proofs.Outcome
import Rollout.Session.Basic
import Rollout.Session.Index
import Rollout.Signing.Key
import Rollout.Storage.Disk
import Rollout.Text.CodePoints
import Rollout.Text.Bracketed
import Rollout.Text.CombiningClass
import Rollout.Text.Composition
import Rollout.Text.Numerals
import Rollout.Text.Quoted
import Rollout.Transaction.Run
import Rollout.Uint256
import Rollout.Url.Reader
import Rollout.Url.Host
import Rollout.Proofs.Graph.Edges
import Rollout.Proofs.Sequence
import Rollout.Proofs.Graph.Schedule
import Rollout.Proofs.Graph.Cycles
import Rollout.Proofs.Graph.LeastOrder
import Rollout.Proofs.Graph.Faults
import Rollout.Proofs.Session.Handles
import Rollout.Proofs.Plan.Runs
import Rollout.Proofs.Plan.CreationCode
import Rollout.Proofs.Plan.Build
import Rollout.Proofs.Plan.Dependencies
import Rollout.Proofs.Plan.FinalCode
import Rollout.Proofs.Plan.Course
import Rollout.Proofs.Json.Literals
import Rollout.Proofs.Json.RoundTrip
import Rollout.Proofs.Storage.Writing
import Rollout.Proofs.Session.Reopening
import Rollout.Proofs.Plan.History
import Rollout.Proofs.Plan.Resumption
import Rollout.Proofs.Graph.Renaming
import Rollout.Proofs.Plan.Renaming
import Rollout.Proofs.Bytecode.Replacement
import Rollout.Proofs.Bytecode.Pieces
import Rollout.Proofs.Bytecode.Slots
import Rollout.Proofs.Bytecode.Linking
import Rollout.Proofs.Session.Saved
import Rollout.Proofs.Plan.LinkOrder
import Rollout.Proofs.Json.Members
import Rollout.Proofs.Bytecode.Offsets
import Rollout.Proofs.Artifact.LinkPositions
import Rollout.Proofs.Session.Index
import Rollout.Proofs.Transaction.Course
import Rollout.Proofs.Abi.PlainSignature
import Rollout.Proofs.Abi.Words
import Rollout.Proofs.Transaction.Demo
import Rollout.Proofs.Address
import Rollout.Proofs.Session.Export
import Rollout.Proofs.Text.Numerals
import Rollout.Proofs.Uint256
import Rollout.Proofs.Manifest.RoundTrip
import Rollout.Proofs.Config.Settings
import Rollout.Proofs.Config.EnvFile
import Rollout.Proofs.CommandLine.Effects
import Rollout.Proofs.CommandLine.PrintedOrder
import Rollout.Proofs.CommandLine.Preflight
import Rollout.Proofs.CommandLine.Overriding
import Rollout.Proofs.Bytecode.Overwriting
import Rollout.Proofs.Abi.Decoding
import Rollout.Proofs.Abi.Arguments
import Rollout.Proofs.Abi.Literals
import Rollout.Proofs.Abi.TextForms
import Rollout.Proofs.Abi.Integers
import Rollout.Proofs.Abi.PlainArguments
import Rollout.Proofs.Bytecode.InPlace
import Rollout.Proofs.Artifact.LinkedInPlace
import Rollout.Proofs.Plan.RepeatedLinks
import Rollout.Proofs.Artifact.ListedPlaceholders
import Rollout.Proofs.Session.FailedWrites
import Rollout.Proofs.Graph.Construction
import Rollout.Proofs.Graph.Loop
import Rollout.Proofs.Json.Visits
import Rollout.Proofs.Artifact.Reading
import Rollout.Proofs.Config.Recipients
import Rollout.Proofs.Bytecode.SharedPlaceholders
import Rollout.Proofs.Abi.Shapes
import Rollout.Proofs.Bytecode.Completion
import Rollout.Proofs.Plan.CompletedCode
