import KeyedStore.Application.Basic
import KeyedStore.Application.Tour
import KeyedStore.Bson.ExtendedJson
import KeyedStore.Bson.OfJson
import KeyedStore.Bson.ToJson
import KeyedStore.Bson.Value
import KeyedStore.Calendar.Date
import KeyedStore.Calendar.Instant
import KeyedStore.Calendar.Reader
import KeyedStore.Calendar.Timestamp
import KeyedStore.Catalogue
import KeyedStore.Codec.Binary
import KeyedStore.Codec.Options
import KeyedStore.Codec.Structured
import KeyedStore.Entity.Declaration
import KeyedStore.Entity.Kind
import KeyedStore.Entity.MetadataCache
import KeyedStore.Entity.Registry
import KeyedStore.Entity.Shape
import KeyedStore.Json.Basic
import KeyedStore.Json.Reader
import KeyedStore.Json.Text
import KeyedStore.Log
import KeyedStore.Main
import KeyedStore.NameMap
import KeyedStore.Number.Binary64
import KeyedStore.Number.Decimal128
import KeyedStore.Number.Notation
import KeyedStore.Number.Numeral
import KeyedStore.Number.Shortest
import KeyedStore.Pairs
import KeyedStore.Pattern.Basic
import KeyedStore.Pattern.CharSet
import KeyedStore.Pattern.ClassReader
import KeyedStore.Pattern.Cursor
import KeyedStore.Pattern.Escape
import KeyedStore.Pattern.Expression
import KeyedStore.Pattern.Fault
import KeyedStore.Pattern.Meaning
import KeyedStore.Pattern.Reader
import KeyedStore.Pattern.Tree
import KeyedStore.Player.Experience
import KeyedStore.Player.Level
import KeyedStore.Player.Stats
import KeyedStore.Proofs.Bson.Convertible
import KeyedStore.Proofs.Bson.ExtendedForms
import KeyedStore.Proofs.Bson.Paths
import KeyedStore.Proofs.Bson.Plain
import KeyedStore.Proofs.Calendar.Days
import KeyedStore.Proofs.Calendar.InstantText
import KeyedStore.Proofs.Codec.Contents
import KeyedStore.Proofs.Codec.Decoding
import KeyedStore.Proofs.Codec.Diagnostics
import KeyedStore.Proofs.Codec.Encoding
import KeyedStore.Proofs.Codec.Identity
import KeyedStore.Proofs.Codec.Lossless
import KeyedStore.Proofs.Codec.Refusals
import KeyedStore.Proofs.Codec.Reservation
import KeyedStore.Proofs.Codec.Shown
import KeyedStore.Proofs.Entity.Faults
import KeyedStore.Proofs.Entity.Fields
import KeyedStore.Proofs.Entity.NameRules
import KeyedStore.Proofs.Entity.Registrations
import KeyedStore.Proofs.Entity.SharedCache
import KeyedStore.Proofs.Entity.TypeNames
import KeyedStore.Proofs.Json.Numbers
import KeyedStore.Proofs.Json.Reading
import KeyedStore.Proofs.Json.Strings
import KeyedStore.Proofs.Number.Shortest
import KeyedStore.Proofs.Pairs
import KeyedStore.Proofs.Player.AwardPhases
import KeyedStore.Proofs.Player.Board
import KeyedStore.Proofs.Player.ConcurrentAwards
import KeyedStore.Proofs.Player.Experience
import KeyedStore.Proofs.Player.GameRewards
import KeyedStore.Proofs.Player.Levels
import KeyedStore.Proofs.Player.LostRecords
import KeyedStore.Proofs.Player.PartialSums
import KeyedStore.Proofs.Player.Progress
import KeyedStore.Proofs.Player.Rewards
import KeyedStore.Proofs.Player.SeparatePlayers
import KeyedStore.Proofs.Player.StatsNames
import KeyedStore.Proofs.Player.StatsRefinement
import KeyedStore.Proofs.Repository.History
import KeyedStore.Proofs.Repository.LookUp
import KeyedStore.Proofs.Settings.Numbers
import KeyedStore.Proofs.Storage.Calls
import KeyedStore.Proofs.Storage.CodecResets
import KeyedStore.Proofs.Storage.Endings
import KeyedStore.Proofs.Storage.Errands
import KeyedStore.Proofs.Storage.Frame
import KeyedStore.Proofs.Storage.Interleaving
import KeyedStore.Proofs.Storage.LooseRoundTrip
import KeyedStore.Proofs.Storage.NativeDates
import KeyedStore.Proofs.Storage.Operation
import KeyedStore.Proofs.Storage.Permits
import KeyedStore.Proofs.Storage.RoundTrip
import KeyedStore.Proofs.Storage.Settling
import KeyedStore.Proofs.Storage.Steps
import KeyedStore.Proofs.Storage.StoredBytes
import KeyedStore.Proofs.Storage.StoredIntegers
import KeyedStore.Proofs.Storage.Trace
import KeyedStore.Proofs.Storage.Within
import KeyedStore.Proofs.Text.Numerals
import KeyedStore.Proofs.World.Keys
import KeyedStore.Repository.Backend
import KeyedStore.Repository.Memory
import KeyedStore.Server.Address
import KeyedStore.Server.ConnectionString
import KeyedStore.Server.Credential
import KeyedStore.Server.Options
import KeyedStore.Settings.Basic
import KeyedStore.Settings.EnvFile
import KeyedStore.Settings.LogFilter
import KeyedStore.Specimen.Archives
import KeyedStore.Specimen.Loose
import KeyedStore.Specimen.Records
import KeyedStore.Storage.Connect
import KeyedStore.Storage.Facade
import KeyedStore.Storage.Routine
import KeyedStore.Storage.Service
import KeyedStore.Storage.WorkerPool
import KeyedStore.StoreError
import KeyedStore.Text.Alphanumeric
import KeyedStore.Text.Base64
import KeyedStore.Text.Basic
import KeyedStore.Text.Digits
import KeyedStore.Text.Hex
import KeyedStore.Text.Hidden
import KeyedStore.Text.Percent
import KeyedStore.Text.Quoted
import KeyedStore.Text.Utf8
import KeyedStore.World.Archive
