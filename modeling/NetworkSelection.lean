import NetworkSelection.Interchange.Views
import NetworkSelection.Json.Parser
import NetworkSelection.Json.Printer
import NetworkSelection.Pool.Lemmas
import NetworkSelection.Proofs.Annotations
import NetworkSelection.Proofs.ArrivalOrder
import NetworkSelection.Proofs.Batches
import NetworkSelection.Proofs.Competition
import NetworkSelection.Proofs.Consistency
import NetworkSelection.Proofs.Failures
import NetworkSelection.Proofs.JointThroughput
import NetworkSelection.Proofs.Likeness
import NetworkSelection.Proofs.Maximum
import NetworkSelection.Proofs.PickyMode
import NetworkSelection.Proofs.Provenance
import NetworkSelection.Scenario
import NetworkSelection.Session
import NetworkSelection.Proofs.FaultAccount
import NetworkSelection.Proofs.Reports
import NetworkSelection.Proofs.Percentage
import NetworkSelection.Proofs.Snapshot
import NetworkSelection.Proofs.Estimate
import NetworkSelection.Proofs.Picture
import NetworkSelection.Proofs.Replay
import NetworkSelection.Proofs.Departures
import NetworkSelection.Proofs.Filling
import NetworkSelection.Proofs.BestThroughput
import NetworkSelection.Proofs.Loosening
import NetworkSelection.Proofs.RoundTrip
import NetworkSelection.Proofs.AddressGrammar
import NetworkSelection.Proofs.AddressText
import NetworkSelection.Proofs.Resolution
import NetworkSelection.Proofs.BandSums
import NetworkSelection.Proofs.KeyText
import NetworkSelection.Proofs.Enumeration
import NetworkSelection.Proofs.Seeding
import NetworkSelection.Proofs.Descent
import NetworkSelection.Proofs.Traits
import NetworkSelection.Proofs.UserChoice
import NetworkSelection.Proofs.Logbook
