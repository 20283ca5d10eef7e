import ElixirClient.CommandLine
import ElixirClient.Main
import ElixirClient.Renderer.Replacement
import ElixirClient.Proofs.Fault.Confined
import ElixirClient.Proofs.Rendering.Artifact
import ElixirClient.Proofs.Generation.RunOrder
import ElixirClient.Proofs.Generation.Accounting
import ElixirClient.Proofs.Naming.Identifier
import ElixirClient.Proofs.Source.LiteralReader
import ElixirClient.Proofs.PathTemplate.Arguments
import ElixirClient.Proofs.PathTemplate.Parts
import ElixirClient.Proofs.Source.Interpolation
import ElixirClient.Proofs.PathTemplate.Url
import ElixirClient.Proofs.Rendering.Capture
import ElixirClient.Proofs.Layout.Place
import ElixirClient.Proofs.Layout.Writing
import ElixirClient.Proofs.Layout.Overwriting
import ElixirClient.Proofs.Generation.FatalPath
import ElixirClient.Proofs.Generation.Closed
import ElixirClient.Proofs.Generation.InputOrder
import ElixirClient.Proofs.Generation.Totality
import ElixirClient.Proofs.Fault.Persists
import ElixirClient.Proofs.Node.Reads
import ElixirClient.Proofs.Rendering.Accord
import ElixirClient.Proofs.Rendering.Growth
import ElixirClient.Proofs.Rendering.Responses
import ElixirClient.Proofs.Generation.Growth
import ElixirClient.Proofs.Renderer.Layers
import ElixirClient.Proofs.Naming.CamelCase
import ElixirClient.Proofs.Naming.Idempotence
import ElixirClient.Proofs.Naming.Renaming
import ElixirClient.Proofs.Descriptor.Lookup
import ElixirClient.Proofs.Fault.First
import ElixirClient.Proofs.Descriptor.Misreading
import ElixirClient.Proofs.Descriptor.Handling
import ElixirClient.Proofs.Config.Handling
import ElixirClient.Proofs.CommandLine.Refusal
import ElixirClient.Proofs.Renderer.Scripts
import ElixirClient.Proofs.Session.Account
import ElixirClient.Proofs.Session.History
import ElixirClient.Proofs.Descriptor.PropertyTypes
import ElixirClient.Proofs.Generation.Skipping
import ElixirClient.Proofs.Generation.ErrorType
import ElixirClient.Proofs.Source.Faults
import ElixirClient.Proofs.Layout.Progress
import ElixirClient.Proofs.CommandLine.AllOrNothing
import ElixirClient.Proofs.PathTemplate.Validation
import ElixirClient.Proofs.Rendering.Dangling
import ElixirClient.Proofs.Source.HeredocReader
import ElixirClient.Proofs.Layout.Documentation
import ElixirClient.Proofs.Source.Indentation
import ElixirClient.Proofs.Source.Steadiness
import ElixirClient.Proofs.Source.SteadyNodes
import ElixirClient.Proofs.Rendering.Indentation
import ElixirClient.Proofs.Resolver.NormalForm
import ElixirClient.Proofs.Resolver.Regrouping
import ElixirClient.Proofs.Rendering.DeclarationOrder
import ElixirClient.Proofs.Rendering.Fields
import ElixirClient.Proofs.Descriptor.Grammar
import ElixirClient.Proofs.Source.AtomReader
import ElixirClient.Proofs.Source.TypeReadability
import ElixirClient.Proofs.Source.Precedence
import ElixirClient.Proofs.Naming.Separators
import ElixirClient.Proofs.Naming.WordBoundaries
import ElixirClient.Proofs.Pattern.Substitution
import ElixirClient.Proofs.Naming.WordPatterns
import ElixirClient.Proofs.Naming.VariableName
import ElixirClient.Proofs.Generation.Documentation
