import DocumentGateway.Json.Printer
import DocumentGateway.Json.Reader
import DocumentGateway.Json.Order
import DocumentGateway.Json.Path
import DocumentGateway.Search.Compiler
import DocumentGateway.Pattern.Basic
import DocumentGateway.Pattern.Reader
import DocumentGateway.Filter.Reader
import DocumentGateway.Pipeline.Reader
import DocumentGateway.SortedMap
import DocumentGateway.Store.Codec
import DocumentGateway.Store.Immutable
import DocumentGateway.Store.Name
import DocumentGateway.Config.Setting
import DocumentGateway.Config.Sections
import DocumentGateway.Store.Backend
import DocumentGateway.Store.DocumentStore
import DocumentGateway.Service.Settings
import DocumentGateway.Service.Basic
import DocumentGateway.Yaml.Text
import DocumentGateway.Yaml.Token
import DocumentGateway.Yaml.Node
import DocumentGateway.Yaml.Scalar
import DocumentGateway.Config.YamlSettings
import DocumentGateway.Access.Scope
import DocumentGateway.Access.RateLimit
import DocumentGateway.Gateway.Error
import DocumentGateway.Network.Address
import DocumentGateway.Gateway.Settings
import DocumentGateway.Gateway.Query
import DocumentGateway.Gateway.Basic
import DocumentGateway.Config.EnvironmentFile
import DocumentGateway.Config.Layers
import DocumentGateway.Gateway.Loading
import DocumentGateway.Text.Utf8
import DocumentGateway.Csv.Record
import DocumentGateway.Csv.Documents
import DocumentGateway.Http.Message
import DocumentGateway.Http.Percent
import DocumentGateway.Http.MediaType
import DocumentGateway.Http.Multipart
import DocumentGateway.Gateway.Route
import DocumentGateway.Gateway.Task
import DocumentGateway.Gateway.Handler
import DocumentGateway.Gateway.Answer
import DocumentGateway.Config.VariableBlock
import DocumentGateway.Gateway.Start
import DocumentGateway.Main
import DocumentGateway.Proofs.SortedMap
import DocumentGateway.Proofs.Store.RecordKey
import DocumentGateway.Proofs.Store.NestedTable
import DocumentGateway.Proofs.Store.FlatTable
import DocumentGateway.Proofs.Store.Backend
import DocumentGateway.Proofs.Store.BackendAgreement
import DocumentGateway.Proofs.Store.Address
import DocumentGateway.Proofs.Store.FailedWrite
import DocumentGateway.Proofs.Gateway.FailedRequest
import DocumentGateway.Proofs.Decimal.WholeNumber
import DocumentGateway.Proofs.Keyed
import DocumentGateway.Proofs.Search.ProperExpression
import DocumentGateway.Proofs.Search.Satisfaction
import DocumentGateway.Proofs.Filter.Matching
import DocumentGateway.Proofs.Search.StoreFilter
import DocumentGateway.Proofs.Service.Search
import DocumentGateway.Proofs.Decimal.Digits
import DocumentGateway.Proofs.Json.Numeral
import DocumentGateway.Proofs.Decimal.Shortest
import DocumentGateway.Proofs.Json.NumberText
import DocumentGateway.Proofs.Json.Regular
import DocumentGateway.Proofs.Json.StringText
import DocumentGateway.Proofs.Json.RoundTrip
import DocumentGateway.Proofs.Store.Codec
import DocumentGateway.Proofs.Store.Catalog
import DocumentGateway.Proofs.Store.Representation
import DocumentGateway.Proofs.Store.Refinement
import DocumentGateway.Proofs.Search.TermMerge
import DocumentGateway.Proofs.Filter.Acceptance
import DocumentGateway.Proofs.Store.AlikeNamespace
import DocumentGateway.Proofs.Store.CollectionWrites
import DocumentGateway.Proofs.Store.AlikeStores
import DocumentGateway.Proofs.Store.ImmutableCollection
import DocumentGateway.Proofs.Gateway.Replies
import DocumentGateway.Proofs.Gateway.Confinement
import DocumentGateway.Proofs.Service.CompiledText
import DocumentGateway.Proofs.Store.ReadPaths
import DocumentGateway.Proofs.Gateway.InsertedPlace
import DocumentGateway.Proofs.Gateway.Location
import DocumentGateway.Proofs.Store.InsertedDocument
import DocumentGateway.Proofs.Gateway.DevelopmentKey
import DocumentGateway.Proofs.Gateway.RateLimit
import DocumentGateway.Proofs.Csv.Documents
import DocumentGateway.Proofs.Search.EqualityTerm
import DocumentGateway.Proofs.Service.UploadedCell
import DocumentGateway.Proofs.Json.Order
import DocumentGateway.Proofs.Filter.SortOrder
import DocumentGateway.Proofs.Filter.SameDocuments
import DocumentGateway.Proofs.Json.Path
import DocumentGateway.Proofs.Pipeline.Projection
import DocumentGateway.Proofs.Json.Distinct
import DocumentGateway.Proofs.Json.FirstOccurrence
import DocumentGateway.Proofs.Pipeline.Grouping
import DocumentGateway.Proofs.Store.DistinctValues
import DocumentGateway.Proofs.StableSort
import DocumentGateway.Proofs.Pipeline.Sorting
import DocumentGateway.Proofs.Pipeline.Extremes
import DocumentGateway.Proofs.Json.Coherence
import DocumentGateway.Proofs.Filter.Comparisons
import DocumentGateway.Proofs.Service.RequiredFields
import DocumentGateway.Proofs.Search.TermParts
import DocumentGateway.Proofs.Search.Report
import DocumentGateway.Proofs.Search.TypePattern
import DocumentGateway.Proofs.Search.Extension
import DocumentGateway.Proofs.Service.HealthProbe
import DocumentGateway.Proofs.Text.Blank
import DocumentGateway.Proofs.Store.ImmutableSet
import DocumentGateway.Proofs.Config.ImmutableSettings
import DocumentGateway.Proofs.Json.Meaning
import DocumentGateway.Proofs.Http.Escape
import DocumentGateway.Proofs.Gateway.ObjectPath
import DocumentGateway.Proofs.Csv.Columns
import DocumentGateway.Proofs.Store.NamespaceStretch
