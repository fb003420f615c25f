import BeanBridge.Agent.Connector
import BeanBridge.Agent.Reply
import BeanBridge.Agent.Session
import BeanBridge.BeanName.Basic
import BeanBridge.BeanName.Expression
import BeanBridge.BeanName.Glob
import BeanBridge.BeanName.Matching
import BeanBridge.BeanName.Parser
import BeanBridge.BeanName.Path
import BeanBridge.Calendar.Civil
import BeanBridge.Calendar.Instant
import BeanBridge.Calendar.Timestamp
import BeanBridge.Client.Basic
import BeanBridge.Client.Calls
import BeanBridge.Client.Error
import BeanBridge.Client.Process
import BeanBridge.Client.ScriptedPeer
import BeanBridge.Client.ServerPeer
import BeanBridge.Client.Walk
import BeanBridge.Config.Basic
import BeanBridge.Config.Environment
import BeanBridge.Config.Fields
import BeanBridge.Config.OfJson
import BeanBridge.Config.Target
import BeanBridge.Config.ToJson
import BeanBridge.Connector.Call
import BeanBridge.Connector.Error
import BeanBridge.Connector.Memory
import BeanBridge.Connector.Scripted
import BeanBridge.Curve.Edwards
import BeanBridge.Curve.Residue
import BeanBridge.Curve.Weierstrass
import BeanBridge.Dialogue
import BeanBridge.Digest.Sha512
import BeanBridge.Double.Basic
import BeanBridge.Double.Fixed
import BeanBridge.Double.Rounding
import BeanBridge.Double.Shortest
import BeanBridge.Entry
import BeanBridge.Executor.Basic
import BeanBridge.Executor.Course
import BeanBridge.Failure
import BeanBridge.Files.Basic
import BeanBridge.Frame.Basic
import BeanBridge.Frame.Decoder
import BeanBridge.Http.Basic
import BeanBridge.Json.Basic
import BeanBridge.Json.Number
import BeanBridge.Json.Parser
import BeanBridge.Main
import BeanBridge.MessagePack.Fields
import BeanBridge.MessagePack.Item
import BeanBridge.MessagePack.Reader
import BeanBridge.MessagePack.Writer
import BeanBridge.Program.Basic
import BeanBridge.Program.Settings
import BeanBridge.Proofs.Agent.Reading
import BeanBridge.Proofs.Agent.Values
import BeanBridge.Proofs.BeanName.Canonical
import BeanBridge.Proofs.BeanName.Display
import BeanBridge.Proofs.BeanName.Escapes
import BeanBridge.Proofs.BeanName.Expression
import BeanBridge.Proofs.BeanName.Glob
import BeanBridge.Proofs.BeanName.Parsing
import BeanBridge.Proofs.BeanName.Selection
import BeanBridge.Proofs.BeanName.SetSelection
import BeanBridge.Proofs.BeanName.Spelling
import BeanBridge.Proofs.BeanName.Text
import BeanBridge.Proofs.BeanName.Uniqueness
import BeanBridge.Proofs.BeanName.Wildcards
import BeanBridge.Proofs.Calendar.Civil
import BeanBridge.Proofs.Calendar.Instant
import BeanBridge.Proofs.Client.Attribution
import BeanBridge.Proofs.Client.Exchange
import BeanBridge.Proofs.Client.Recording
import BeanBridge.Proofs.Client.Refinement
import BeanBridge.Proofs.Client.Usability
import BeanBridge.Proofs.Client.Walk
import BeanBridge.Proofs.Config.Target
import BeanBridge.Proofs.Connector.Answering
import BeanBridge.Proofs.Connector.Furnished
import BeanBridge.Proofs.Connector.Lookup
import BeanBridge.Proofs.Connector.Memory
import BeanBridge.Proofs.Connector.Noting
import BeanBridge.Proofs.Connector.Table
import BeanBridge.Proofs.Dialogue
import BeanBridge.Proofs.Dialogue.InStep
import BeanBridge.Proofs.Dialogue.Terms
import BeanBridge.Proofs.Executor.Batch
import BeanBridge.Proofs.Executor.Deadline
import BeanBridge.Proofs.Executor.Order
import BeanBridge.Proofs.Executor.Outcome
import BeanBridge.Proofs.Executor.Passage
import BeanBridge.Proofs.Executor.Serial
import BeanBridge.Proofs.Frame.Stream
import BeanBridge.Proofs.MessagePack.Grammar
import BeanBridge.Proofs.MessagePack.Layout
import BeanBridge.Proofs.MessagePack.Members
import BeanBridge.Proofs.MessagePack.Number
import BeanBridge.Proofs.MessagePack.Record
import BeanBridge.Proofs.MessagePack.RoundTrip
import BeanBridge.Proofs.Protocol.Layouts
import BeanBridge.Proofs.Protocol.Presentation
import BeanBridge.Proofs.Protocol.RoundTrip
import BeanBridge.Proofs.Service.AtEase
import BeanBridge.Proofs.Service.Leak
import BeanBridge.Proofs.Service.Malformed
import BeanBridge.Proofs.Service.Masking
import BeanBridge.Proofs.Service.Passwords
import BeanBridge.Proofs.Service.Recording
import BeanBridge.Proofs.Service.Reply
import BeanBridge.Proofs.Service.Serving
import BeanBridge.Proofs.Service.Traces
import BeanBridge.Proofs.Session.Batch
import BeanBridge.Proofs.Session.Collecting
import BeanBridge.Proofs.Session.Custody
import BeanBridge.Proofs.Session.Doings
import BeanBridge.Proofs.Session.Entries
import BeanBridge.Proofs.Session.Exchanges
import BeanBridge.Proofs.Session.Life
import BeanBridge.Proofs.Session.Loss
import BeanBridge.Proofs.Session.Masking
import BeanBridge.Proofs.Session.Operations
import BeanBridge.Proofs.Session.Query
import BeanBridge.Proofs.Session.Reading
import BeanBridge.Proofs.Session.Recounting
import BeanBridge.Proofs.Session.Stages
import BeanBridge.Proofs.Session.Traces
import BeanBridge.Proofs.Stats.History
import BeanBridge.Proofs.Stats.Holding
import BeanBridge.Proofs.Stats.Newest
import BeanBridge.Proofs.Stats.View
import BeanBridge.Proofs.Text.Numeral
import BeanBridge.Proofs.Value.Endings
import BeanBridge.Proofs.Value.Leaves
import BeanBridge.Proofs.Value.Names
import BeanBridge.Protocol.Decoding
import BeanBridge.Protocol.Encoding
import BeanBridge.Protocol.Request
import BeanBridge.Protocol.Response
import BeanBridge.Service.Fetcher
import BeanBridge.Service.Handler
import BeanBridge.Service.Server
import BeanBridge.Session.Basic
import BeanBridge.Session.Collecting
import BeanBridge.Session.Connection
import BeanBridge.Session.Operation
import BeanBridge.Session.Operations
import BeanBridge.Stats.Basic
import BeanBridge.Stats.Recorder
import BeanBridge.Store.Certificate
import BeanBridge.Store.Der
import BeanBridge.Store.PrimeKey
import BeanBridge.Store.PrivateKey
import BeanBridge.Store.Sections
import BeanBridge.Text.Base64
import BeanBridge.Text.Duration
import BeanBridge.Text.Hex
import BeanBridge.Text.Hidden
import BeanBridge.Text.Pieces
import BeanBridge.Text.Quoted
import BeanBridge.Text.Record
import BeanBridge.Text.Upper
import BeanBridge.Timed
import BeanBridge.Unicode.Composition
import BeanBridge.Unicode.Direction
import BeanBridge.Unicode.Folding
import BeanBridge.Unicode.Joining
import BeanBridge.Unicode.Mark
import BeanBridge.Unicode.Normal
import BeanBridge.Unicode.Table
import BeanBridge.Url.Basic
import BeanBridge.Url.Domain
import BeanBridge.Url.Host
import BeanBridge.Url.Parser
import BeanBridge.Url.Percent
import BeanBridge.Url.Punycode
import BeanBridge.Value.Basic
import BeanBridge.Value.Collecting
import BeanBridge.Value.Flatten
import BeanBridge.Value.OfJson
