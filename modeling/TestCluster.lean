import TestCluster.Cli.Arguments
import TestCluster.Cli.Log
import TestCluster.Cli.Report
import TestCluster.Cli.Run
import TestCluster.Client.Conflict
import TestCluster.Client.ErrorCode
import TestCluster.Client.Producer
import TestCluster.Client.Property
import TestCluster.Cluster.Launcher
import TestCluster.Cluster.Readiness
import TestCluster.Cluster.TopicCreation
import TestCluster.Config.Basic
import TestCluster.Config.Error
import TestCluster.Config.Fields
import TestCluster.Config.Load
import TestCluster.Config.Tree
import TestCluster.Config.Validate
import TestCluster.Connection
import TestCluster.Decimal.Double
import TestCluster.Decimal.Shortest
import TestCluster.Delivery
import TestCluster.Event
import TestCluster.Failure
import TestCluster.Fixture.Basic
import TestCluster.Json.Quoted
import TestCluster.Json.Token
import TestCluster.Json.Value
import TestCluster.Main
import TestCluster.Mock.Brokers
import TestCluster.Mock.Builder
import TestCluster.Platform
import TestCluster.Proofs.Acting
import TestCluster.Proofs.Cli.Cleanup
import TestCluster.Proofs.Cli.Course
import TestCluster.Proofs.Cli.Override
import TestCluster.Proofs.Cli.Seeding
import TestCluster.Proofs.Client.Recording
import TestCluster.Proofs.Client.Sending
import TestCluster.Proofs.Cluster.Launch
import TestCluster.Proofs.Cluster.Waiting
import TestCluster.Proofs.Config.Edit
import TestCluster.Proofs.Config.Fields
import TestCluster.Proofs.Config.Load
import TestCluster.Proofs.Config.Section
import TestCluster.Proofs.Connection
import TestCluster.Proofs.Delivery.Advance
import TestCluster.Proofs.Delivery.Attempt
import TestCluster.Proofs.Delivery.Orderly
import TestCluster.Proofs.Delivery.Parts
import TestCluster.Proofs.Delivery.Recorded
import TestCluster.Proofs.Delivery.Reports
import TestCluster.Proofs.Delivery.Share
import TestCluster.Proofs.Delivery.Simulation
import TestCluster.Proofs.Delivery.Termination
import TestCluster.Proofs.Fixture.Clients
import TestCluster.Proofs.Fixture.Layers
import TestCluster.Proofs.Fixture.Lifecycle
import TestCluster.Proofs.Json.Document
import TestCluster.Proofs.Json.Layout
import TestCluster.Proofs.Json.Numbers
import TestCluster.Proofs.Json.Strings
import TestCluster.Proofs.Mock.Builder
import TestCluster.Proofs.Recorder.History
import TestCluster.Proofs.Recorder.Script
import TestCluster.Proofs.Registry.Calls
import TestCluster.Proofs.Registry.Credentials
import TestCluster.Proofs.Registry.Decoding
import TestCluster.Proofs.Registry.Endpoint
import TestCluster.Proofs.Registry.Lookup
import TestCluster.Proofs.Registry.Members
import TestCluster.Proofs.Registry.Results
import TestCluster.Proofs.Seed.Cycle
import TestCluster.Proofs.Seed.Numbered
import TestCluster.Proofs.Seed.Share
import TestCluster.Proofs.Shared
import TestCluster.Proofs.Text.Base64
import TestCluster.Proofs.Text.Numeral
import TestCluster.Proofs.Url.Path
import TestCluster.Proofs.Url.Segment
import TestCluster.Proofs.Yaml.Numeral
import TestCluster.Proofs.Yaml.Spelling
import TestCluster.Properties
import TestCluster.Recorder
import TestCluster.Registry.Client
import TestCluster.Registry.Exchange
import TestCluster.Registry.Schema
import TestCluster.Seed
import TestCluster.Session
import TestCluster.Shared
import TestCluster.Text.Base64
import TestCluster.Text.Blank
import TestCluster.Text.Likeness
import TestCluster.Text.Quoted
import TestCluster.Text.Reference
import TestCluster.Text.Shown
import TestCluster.Text.Turns
import TestCluster.Text.Utf8
import TestCluster.Topic
import TestCluster.Url.Basic
import TestCluster.Url.Domain
import TestCluster.Url.Domain.Composition
import TestCluster.Url.Domain.Direction
import TestCluster.Url.Domain.Folding
import TestCluster.Url.Domain.Joining
import TestCluster.Url.Domain.Mark
import TestCluster.Url.Domain.Punycode
import TestCluster.Url.Domain.Status
import TestCluster.Url.Host
import TestCluster.Url.Path
import TestCluster.Url.Percent
import TestCluster.Url.Read
import TestCluster.Yaml.Block
import TestCluster.Yaml.Decode
import TestCluster.Yaml.Directive
import TestCluster.Yaml.Event
import TestCluster.Yaml.Gap
import TestCluster.Yaml.Lexer
import TestCluster.Yaml.Node
import TestCluster.Yaml.Plain
import TestCluster.Yaml.Quoted
import TestCluster.Yaml.Resolve
import TestCluster.Yaml.Spot
import TestCluster.Yaml.Tag
import TestCluster.Yaml.Token
