import Registrar.Diagnostics
import Registrar.LogFilter
import Registrar.Main
import Registrar.Operations.Certificates
import Registrar.Operations.Domains
import Registrar.Operations.Hosts
import Registrar.Operations.Privacy
import Registrar.Probe
import Registrar.Proofs.Breaker.Latecomer
import Registrar.Proofs.Breaker.Reset
import Registrar.Proofs.Bucket.Admission
import Registrar.Proofs.Client.Answers
import Registrar.Proofs.Client.Crowd
import Registrar.Records.Failure
import Registrar.Time.ManualClock
import Registrar.Proofs.Client.Suspension
import Registrar.Proofs.Client.Timeline
import Registrar.Proofs.Client.Secrecy
import Registrar.Proofs.Xml.Flag
import Registrar.Proofs.Operations.Mutations
import Registrar.Proofs.Operations.HostSets
import Registrar.Proofs.Operations.HostEdits
import Registrar.Proofs.Operations.Lookups
import Registrar.Proofs.Settings.Validity
import Registrar.Proofs.Operations.DomainPages
import Registrar.Proofs.Operations.HostListing
import Registrar.Proofs.Retry.Delays
import Registrar.Proofs.Retry.Journal
import Registrar.Proofs.Retry.Formula
import Registrar.Proofs.Bucket.Updates
import Registrar.Proofs.Bucket.Waiting
import Registrar.Proofs.Bucket.Deadline
import Registrar.Proofs.Operations.HostReading
import Registrar.Proofs.Operations.Nameservers
import Registrar.Proofs.Names.Canonical
import Registrar.Proofs.Operations.DomainTasks
import Registrar.Proofs.Operations.Registrations
import Registrar.Proofs.Operations.Coverage
import Registrar.Proofs.Operations.Issuance
import Registrar.Proofs.Settings.Variables
import Registrar.Proofs.Records.Rereading
import Registrar.Proofs.Operations.Money
