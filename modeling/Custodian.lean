import Custodian.Agent.Fixity
import Custodian.Agent.Locality
import Custodian.Agent.Operation
import Custodian.Agent.Registration
import Custodian.Agent.Replication
import Custodian.Agent.Surroundings
import Custodian.Agent.Transfer
import Custodian.Appliance.Endpoint
import Custodian.Appliance.Error
import Custodian.Appliance.Exchange
import Custodian.Appliance.Payload
import Custodian.Appliance.Replication
import Custodian.CommandLine.Command
import Custodian.CommandLine.Execute
import Custodian.CommandLine.Scan
import Custodian.Config
import Custodian.FileTree.Calls
import Custodian.FileTree.Node
import Custodian.FileTree.Resolve
import Custodian.Json.Fields
import Custodian.Json.Number
import Custodian.Json.Printer
import Custodian.Json.Raw
import Custodian.Json.Token
import Custodian.Json.Value
import Custodian.Machine
import Custodian.Mail
import Custodian.Mailer
import Custodian.Main
import Custodian.Notice
import Custodian.Number.Binary64
import Custodian.Number.Shortest
import Custodian.Package.Basic
import Custodian.Package.Json
import Custodian.Path.Basic
import Custodian.Pointer
import Custodian.Proofs.Agent.Course
import Custodian.Proofs.Agent.Identifier
import Custodian.Proofs.Agent.Job
import Custodian.Proofs.Agent.Jobs
import Custodian.Proofs.Agent.Journal
import Custodian.Proofs.Agent.Lifecycle
import Custodian.Proofs.Agent.OnDemand
import Custodian.Proofs.Agent.Perform
import Custodian.Proofs.Agent.Persistence
import Custodian.Proofs.Agent.Replicated
import Custodian.Proofs.Agent.Requests
import Custodian.Proofs.FileTree.Calls
import Custodian.Proofs.FileTree.FirstFile
import Custodian.Proofs.FileTree.Name
import Custodian.Proofs.FileTree.Node
import Custodian.Proofs.FileTree.Walk
import Custodian.Proofs.Json.Plain
import Custodian.Proofs.Json.RoundTrip
import Custodian.Proofs.Json.Scalar
import Custodian.Proofs.Json.Written
import Custodian.Proofs.Package.RoundTrip
import Custodian.Proofs.RecordStore
import Custodian.Proofs.Table
import Custodian.Proofs.Text.Split
import Custodian.Proofs.Text.Utf8
import Custodian.RecordStore
import Custodian.Report
import Custodian.Space.Listing
import Custodian.Space.Local
import Custodian.Space.Remote
import Custodian.Table
import Custodian.Text.Basic
import Custodian.Text.Blank
import Custodian.Text.Quoted
import Custodian.Text.Unprintable
import Custodian.Text.Utf8
import Custodian.Timestamp.Basic
import Custodian.Timestamp.Reader
import Custodian.Toml.Item
import Custodian.Toml.Reader
import Custodian.Toml.Scalar
import Custodian.Url.Quote
import Custodian.Url.Wire
import Custodian.Xml.Characters
import Custodian.Xml.Content
import Custodian.Xml.Namespace
import Custodian.Xml.Node
import Custodian.Xml.Token
import Custodian.Proofs.CommandLine.Invocations
import Custodian.Proofs.Path.Segments
import Custodian.Proofs.Agent.Place
import Custodian.Proofs.Url.Quote
import Custodian.Proofs.Url.Decode
import Custodian.Proofs.Url.Resolve
import Custodian.Proofs.Url.Wire
import Custodian.Proofs.Url.Plain
import Custodian.Proofs.Url.Quoted
import Custodian.Proofs.Agent.Addresses
import Custodian.Proofs.Agent.FilePath
import Custodian.Proofs.FileTree.Vacant
import Custodian.Proofs.RecordStore.Refinement
import Custodian.Proofs.FileTree.Present
import Custodian.Proofs.RecordStore.Progress
import Custodian.Proofs.Agent.TagFile
import Custodian.Proofs.Text.Order
import Custodian.Proofs.Space.Printed
import Custodian.Proofs.Space.Browse
import Custodian.Proofs.Json.Numeral
import Custodian.Proofs.FileTree.SameFiles
import Custodian.Proofs.FileTree.Ordered
import Custodian.Proofs.FileTree.TopDown
import Custodian.Proofs.Package.Advances
import Custodian.Proofs.CommandLine.OwnRecord
import Custodian.Proofs.Agent.FixityOutcome
import Custodian.Proofs.Agent.LocalityAnswer
import Custodian.Proofs.Agent.Registration
import Custodian.Proofs.FileTree.Making
import Custodian.Proofs.RecordStore.Atomic
import Custodian.Proofs.Agent.FailedQuestion
import Custodian.Proofs.Agent.Notified
import Custodian.Proofs.Agent.Sample
import Custodian.Proofs.Agent.ReplicationAlone
import Custodian.Proofs.Timestamp.Digits
import Custodian.Proofs.Timestamp.ReadBack
import Custodian.Proofs.Xml.Spelling
import Custodian.Proofs.Xml.Document
import Custodian.Proofs.Xml.Meaning
import Custodian.Proofs.Xml.Namespace
import Custodian.Proofs.Xml.Tree
import Custodian.Proofs.Pointer
import Custodian.Proofs.Text.Mark
import Custodian.Proofs.Mail
import Custodian.Proofs.CommandLine.Posted
import Custodian.Proofs.Config
import Custodian.Proofs.FileTree.Made
import Custodian.Proofs.Space.Copying
import Custodian.Proofs.CommandLine.LocalTransfer
import Custodian.Proofs.Path.Parent
import Custodian.Proofs.FileTree.Chain
import Custodian.Proofs.Space.Scratch
import Custodian.Proofs.CommandLine.RemoteTransfer
import Custodian.Proofs.Space.Shape
import Custodian.Proofs.Mail.Superusers
import Custodian.Proofs.Agent.Compression
import Custodian.Proofs.Sequence
import Custodian.Proofs.Json.Fields
import Custodian.Proofs.Appliance.Payload
import Custodian.Proofs.Notice
