import FluentRecords.Loading.Probe
import FluentRecords.Main
import FluentRecords.Proofs.CommandLine.Frame
import FluentRecords.Proofs.CommandLine.Rerun
import FluentRecords.Proofs.Session.LastWrites
import FluentRecords.Proofs.Splice.Residue
import FluentRecords.Record.Raw
import FluentRecords.Text.Json
import FluentRecords.Proofs.Session.Steady
import FluentRecords.Proofs.Session.Isolation
import FluentRecords.Proofs.Session.Completion
import FluentRecords.Proofs.CommandLine.Agreement
import FluentRecords.Proofs.Record.Layout
import FluentRecords.Proofs.Activation.Settings
import FluentRecords.Proofs.Loading.Run
import FluentRecords.Proofs.Loading.Derivation
import FluentRecords.Proofs.Loading.Hosts
import FluentRecords.Proofs.Text.Legal
import FluentRecords.Proofs.Activation.Arguments
import FluentRecords.Proofs.Digest.Input
import FluentRecords.Proofs.Splice.Names
import FluentRecords.Proofs.Loading.Evaluation
import FluentRecords.Proofs.Loading.Execution
import FluentRecords.Proofs.Loading.Calls
import FluentRecords.Proofs.Loading.Leaving
import FluentRecords.Proofs.Loading.Publication
import FluentRecords.Proofs.Record.Offences
import FluentRecords.Proofs.Builder.Reading
import FluentRecords.Proofs.Activation.Detection
import FluentRecords.Proofs.Activation.Layers
import FluentRecords.Proofs.Record.Wrapping
import FluentRecords.Proofs.Record.Influence
import FluentRecords.Proofs.Loading.Rejection
import FluentRecords.Proofs.Activation.KeywordOrder
import FluentRecords.Proofs.Header
import FluentRecords.Proofs.Text.Spelling
import FluentRecords.Proofs.Activation.Locations
import FluentRecords.Proofs.Record.Reclassification
import FluentRecords.Proofs.Builder.DefinitionNames
