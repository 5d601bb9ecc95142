import Embedder.Action
import Embedder.Binary.Decoder
import Embedder.Binary.Encoder
import Embedder.Binary.Instructions
import Embedder.Binary.Names
import Embedder.Binary.Sections
import Embedder.Bytes
import Embedder.Code
import Embedder.Code.Extended
import Embedder.Code.Numeric
import Embedder.Code.Spelling
import Embedder.Command
import Embedder.Command.Inspect
import Embedder.Command.Loading
import Embedder.Command.Report
import Embedder.Command.Run
import Embedder.Config
import Embedder.Config.Reader
import Embedder.Decimal
import Embedder.Definition
import Embedder.Dictionary
import Embedder.Engine
import Embedder.Execution.Arithmetic
import Embedder.Execution.Initial
import Embedder.Execution.Machine
import Embedder.Execution.Memory
import Embedder.Execution.Run
import Embedder.Execution.Table
import Embedder.Execution.Trap
import Embedder.Export
import Embedder.Export.Function
import Embedder.Export.Global
import Embedder.Export.Memory
import Embedder.Export.View
import Embedder.FileSystem
import Embedder.FileSystem.Changes
import Embedder.FloatFormat
import Embedder.FloatFormat.Arithmetic
import Embedder.FloatFormat.Decimal
import Embedder.ImportObject
import Embedder.ImportObject.Resolution
import Embedder.Instance
import Embedder.IntegerFormat
import Embedder.Json
import Embedder.Json.Cursor
import Embedder.Main
import Embedder.Module
import Embedder.Power
import Embedder.Proofs.Execution.HostCalls
import Embedder.Proofs.Linking.Matching
import Embedder.Proofs.Linking.Rules
import Embedder.Proofs.Linking.Spaces
import Embedder.Proofs.FileSystem.Renaming
import Embedder.Proofs.Lists
import Embedder.Proofs.Typing.Code
import Embedder.Proofs.Typing.Guest
import Embedder.Proofs.Typing.Instructions
import Embedder.Proofs.Typing.Machine
import Embedder.Proofs.Typing.Run
import Embedder.Proofs.Typing.Stack
import Embedder.Proofs.World.Depth
import Embedder.Proofs.World.History
import Embedder.Proofs.World.Moment
import Embedder.Proofs.World.Outline
import Embedder.Proofs.World.Relay
import Embedder.Text.Position
import Embedder.Text.Property
import Embedder.Text.Quoted
import Embedder.Text.Utf8
import Embedder.Types
import Embedder.Types.Json
import Embedder.Types.Text
import Embedder.Validation.Instructions
import Embedder.Validation.Module
import Embedder.Validation.Stack
import Embedder.Value
import Embedder.Value.Text
import Embedder.Wasi.Calling
import Embedder.Wasi.Context
import Embedder.Wasi.Environment
import Embedder.Wasi.Function
import Embedder.Wasi.Function.Call
import Embedder.Wasi.Function.Paths
import Embedder.Wasi.Function.Streams
import Embedder.Wasi.System
import Embedder.Wasi.Version
import Embedder.Wat.Assembly
import Embedder.Wat.Number
import Embedder.Wat.Printer
import Embedder.Wat.Reader.Basic
import Embedder.Wat.Reader.Fields
import Embedder.Wat.Reader.Instructions
import Embedder.Wat.Resolution
import Embedder.Wat.Syntax
import Embedder.Wat.Token
import Embedder.World
import Embedder.Proofs.World.Reentrancy
import Embedder.Proofs.Typing.Initial
import Embedder.Proofs.Typing.World
import Embedder.Proofs.Calls.Transparency
import Embedder.Proofs.Execution.Growth
import Embedder.Proofs.Wasi.Calling
import Embedder.Proofs.Wasi.MemorySize
import Embedder.Proofs.World.Growth
import Embedder.Proofs.World.Order
import Embedder.Proofs.World.Entities
import Embedder.Proofs.Memories.Limits
import Embedder.Proofs.World.Refusals
import Embedder.Proofs.World.Separation
import Embedder.Proofs.Execution.Segments
import Embedder.Proofs.World.Phases
import Embedder.Proofs.Linking.Materials
import Embedder.Proofs.Wasi.Plain
import Embedder.Proofs.Calls.Exit
import Embedder.Proofs.Linking.Postponed
import Embedder.Proofs.World.Binding
import Embedder.Proofs.Calls.Start
import Embedder.Proofs.Calls.Gate
import Embedder.Proofs.Memories.Views
import Embedder.Proofs.Memories.Writes
import Embedder.Proofs.Memories.Lending
import Embedder.Proofs.World.Exports
import Embedder.Proofs.Wasi.Snapshots
import Embedder.Proofs.Runs.Globals
import Embedder.Proofs.Runs.Environments
import Embedder.Proofs.Linking.Objects
import Embedder.Proofs.Wasi.Builders
import Embedder.Proofs.World.Artifacts
import Embedder.Proofs.Linking.Substitution
import Embedder.Proofs.Wasi.Detection
import Embedder.Proofs.Memories.Access
import Embedder.Proofs.Modules.CustomSections
import Embedder.Proofs.Types.Descriptors
import Embedder.Proofs.Config.Schema
import Embedder.Proofs.Wat.Formats
import Embedder.Proofs.Wat.Reading
import Embedder.Proofs.Command.Calls
import Embedder.Proofs.Linking.Mismatches
import Embedder.Proofs.FileSystem.Counterparts
import Embedder.Proofs.Wasi.Steps
import Embedder.Proofs.Wasi.Functions
import Embedder.Wasi.Function.Names
import Embedder.Wasi.Function.Status
import Embedder.Wasi.Function.Waiting
