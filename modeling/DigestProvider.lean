import DigestProvider.Config.Document
import DigestProvider.Config.Written
import DigestProvider.Proofs.Context.FreeOnce
import DigestProvider.Proofs.Context.Session
import DigestProvider.Proofs.Hash.DigestLength
import DigestProvider.Proofs.Registry.Usable
import DigestProvider.Provider
import DigestProvider.Scenario.Run
import DigestProvider.Proofs.Method.Ledger
import DigestProvider.Proofs.Registry.Outcomes
import DigestProvider.Proofs.Registry.Custody
import DigestProvider.Proofs.Registry.Report
import DigestProvider.Proofs.Registry.Independent
import DigestProvider.Proofs.Context.TwoPaths
import DigestProvider.Proofs.Registry.Requested
import DigestProvider.Proofs.Registry.Composition
import DigestProvider.Proofs.Method.Script
import DigestProvider.Proofs.Context.AnyRecord
import DigestProvider.Proofs.Algorithm.Names
import DigestProvider.Proofs.Registry.Selection
import DigestProvider.Proofs.Json.Layout
import DigestProvider.Proofs.Json.Value
import DigestProvider.Proofs.Config.Reading
import DigestProvider.Proofs.Config.ByField
import DigestProvider.Proofs.Config.RoundTrip
import DigestProvider.Proofs.Library.StrictMachine
import DigestProvider.Proofs.Context.Preserved
import DigestProvider.Proofs.Context.Extent
import DigestProvider.Proofs.Context.Refused
import DigestProvider.Proofs.Registry.OneAlgorithm
import DigestProvider.Proofs.Bytes.HexDump
import DigestProvider.Proofs.Context.InStep
import DigestProvider.Proofs.Context.Told
