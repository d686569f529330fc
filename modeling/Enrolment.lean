import Enrolment.Build
import Enrolment.ByteOrder
import Enrolment.Client.Account
import Enrolment.Client.Effect
import Enrolment.Client.Gate
import Enrolment.Client.Installation
import Enrolment.Client.Membership
import Enrolment.Client.Registration
import Enrolment.CommandLine.Arguments
import Enrolment.CommandLine.Ending
import Enrolment.CommandLine.Help
import Enrolment.Completion
import Enrolment.Crypto.Ed25519
import Enrolment.Crypto.Edwards
import Enrolment.Crypto.FreshKeys
import Enrolment.Crypto.Residue
import Enrolment.Crypto.Sha512
import Enrolment.Fault
import Enrolment.HostName
import Enrolment.HostName.Composition
import Enrolment.HostName.Direction
import Enrolment.HostName.Joining
import Enrolment.HostName.Mapping
import Enrolment.HostName.Punycode
import Enrolment.Identity
import Enrolment.Job
import Enrolment.Json.Basic
import Enrolment.Json.Indented
import Enrolment.Json.Printer
import Enrolment.Json.Reader
import Enrolment.Json.Record
import Enrolment.KeyFactory
import Enrolment.Lock.Group
import Enrolment.Lock.Nesting
import Enrolment.Lock.Reentrant
import Enrolment.Lock.Yard
import Enrolment.Main
import Enrolment.PhoneNumber
import Enrolment.Plan
import Enrolment.Record.Group
import Enrolment.Record.Key
import Enrolment.Record.Recipient
import Enrolment.Record.Session
import Enrolment.Rehearsal.Keys
import Enrolment.Rehearsal.Service
import Enrolment.Rehearsal.Stage
import Enrolment.Report
import Enrolment.Service.Failure
import Enrolment.Service.Http
import Enrolment.Service.Message
import Enrolment.Service.NetworkError
import Enrolment.Service.Request
import Enrolment.Settings
import Enrolment.Store.Cell
import Enrolment.Store.Column
import Enrolment.Store.DataStore
import Enrolment.Store.Database
import Enrolment.Store.FileRequest
import Enrolment.Store.FileTree
import Enrolment.Store.Location
import Enrolment.Store.Memory
import Enrolment.Store.Opening
import Enrolment.Store.Operation
import Enrolment.Store.Script
import Enrolment.Store.Slot
import Enrolment.Store.Table
import Enrolment.Store.Tables
import Enrolment.Text.Base64
import Enrolment.Text.Blank
import Enrolment.Text.CodePoints
import Enrolment.Text.Digits
import Enrolment.Text.Hex
import Enrolment.Text.Magnitude
import Enrolment.Text.Percent
import Enrolment.Text.Printable
import Enrolment.Text.Split
import Enrolment.Text.Utf8
import Enrolment.Timestamp
import Enrolment.Toml.Basic
import Enrolment.Toml.Quoted
import Enrolment.Toml.Reader
import Enrolment.Toml.Scalar
import Enrolment.Url
import Enrolment.Url.Host
import Enrolment.Uuid
import Enrolment.Proofs.Json.RoundTrip
import Enrolment.Proofs.Text.Timestamp
import Enrolment.Proofs.Text.Uuid
import Enrolment.Proofs.Record.RoundTrip
import Enrolment.Proofs.Service.RoundTrip
import Enrolment.Proofs.Record.Forms
import Enrolment.Proofs.Plan.Contract
import Enrolment.Proofs.Store.Script
import Enrolment.Proofs.Store.Database
import Enrolment.Proofs.Store.Rows
import Enrolment.Proofs.Store.Depiction
import Enrolment.Proofs.Client.Ensures
import Enrolment.Proofs.Plan.Trace
import Enrolment.Proofs.Store.Sight
import Enrolment.Proofs.Store.Slot
import Enrolment.Proofs.Client.Holdings
import Enrolment.Proofs.Client.Conduct
import Enrolment.Proofs.Client.Provisioning
import Enrolment.Proofs.Client.Enrolled
import Enrolment.Proofs.Client.Reach
import Enrolment.Proofs.Client.Scene
import Enrolment.Proofs.Keys.Orbit
import Enrolment.Proofs.Client.Counters
import Enrolment.Proofs.Client.Stages
import Enrolment.Proofs.Client.Likeness
import Enrolment.Proofs.Client.Retry
import Enrolment.Proofs.Store.Entries
import Enrolment.Proofs.Store.Current
import Enrolment.Proofs.Client.Aftermath
import Enrolment.Proofs.Client.Passage
import Enrolment.Proofs.Client.Crowd
import Enrolment.Proofs.Client.Completion
import Enrolment.Proofs.Client.Lapse
import Enrolment.Proofs.Client.Choice
import Enrolment.Proofs.Client.Vouching
import Enrolment.Proofs.Store.Nesting
import Enrolment.Proofs.Lock.Room
import Enrolment.Proofs.Store.Order
import Enrolment.Proofs.Store.Agreement
import Enrolment.Proofs.Client.Sessions
import Enrolment.Proofs.Lock.House
import Enrolment.Proofs.Store.Groups
import Enrolment.Proofs.Client.Clerk
import Enrolment.Proofs.Client.Office
import Enrolment.Proofs.Client.Minutes
import Enrolment.Proofs.Store.SelfSearch
import Enrolment.Proofs.Store.Rebinding
import Enrolment.Proofs.Store.Overlap
import Enrolment.Proofs.Client.Tenure
import Enrolment.Proofs.Client.Permanence
import Enrolment.Proofs.Lock.Attempt
import Enrolment.Proofs.Store.Archive
import Enrolment.Proofs.Store.Restoration
import Enrolment.Proofs.Store.Stock
import Enrolment.Proofs.Client.Binding
import Enrolment.Proofs.Store.OwnRow
import Enrolment.Proofs.Client.OwnRecipient
import Enrolment.Proofs.Client.Dealings
import Enrolment.Proofs.Client.Told
import Enrolment.Proofs.Client.Roster
import Enrolment.Proofs.Client.Endeavour
import Enrolment.Proofs.Client.FollowUps
import Enrolment.Proofs.Lock.Visit
import Enrolment.Proofs.Store.OneGroup
import Enrolment.Proofs.Client.Amendment
import Enrolment.Proofs.Store.Scopes
import Enrolment.Proofs.Lock.Verdict
import Enrolment.Proofs.Text.Utf8
import Enrolment.Proofs.Text.PhoneNumber
import Enrolment.Proofs.Text.Percent
import Enrolment.Proofs.Service.Judgement
import Enrolment.Proofs.Store.BoundNumber
import Enrolment.Proofs.Store.Directory
import Enrolment.Proofs.Store.Opening
import Enrolment.Proofs.Client.Values
import Enrolment.Proofs.Text.Blank
import Enrolment.Proofs.Toml.Entries
import Enrolment.Proofs.Settings.Kind
import Enrolment.Proofs.Settings.Decided

/-!
A client that enrols an account with a service, keeps what belongs to the account in a store, and changes the
membership of groups under a lock, together with the theory of what it does. Time-outs of connections, the
threads that calls are carried to, and records for a log are left out; what depends on the kind of build is
told in `Enrolment.Build`.
-/
