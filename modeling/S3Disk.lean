import S3Disk.SourceTree
import S3Disk.Recovery
import S3Disk.Publication
import S3Disk.Publisher
import S3Disk.Commit
import S3Disk.World
import S3Disk.JournalChecks
import S3Disk.Library.Lineage
import S3Disk.History
import S3Disk.HistoryFacts
import S3Disk.Disturbance
import S3Disk.RepositorySafety
import S3Disk.SourceTreeSafety
import S3Disk.JournalHistory
import S3Disk.Library.Footprint
import S3Disk.AncestrySafety
import S3Disk.RecoverySafety
import S3Disk.PublicationSafety
import S3Disk.PublisherSafety
import S3Disk.CallSafety
import S3Disk.SignedHistory
import S3Disk.Completeness
import S3Disk.ConcreteWire
import S3Disk.Library.Script
import S3Disk.Simulation
import S3Disk.Outcomes
import S3Disk.Consumer
import S3Disk.ConsumerReads
import S3Disk.Library.Resolution
import S3Disk.Containment
import S3Disk.Library.Ensures
import S3Disk.Library.Runs
import S3Disk.Library.Solo
import S3Disk.Library.Totals
import S3Disk.Share.Reader
import S3Disk.Share.ReaderSafety
import S3Disk.Library.Yields
import S3Disk.SnapshotClosure
import S3Disk.ClosureExactness
import S3Disk.Share.Capability
import S3Disk.Share.Bundle
import S3Disk.Share.BundleSafety
import S3Disk.CLI.Session
import S3Disk.CLI.SessionStore
import S3Disk.Library.Calls
import S3Disk.Share.World
import S3Disk.CLI.SessionFacts
import S3Disk.CLI.SessionHistory
import S3Disk.Library.Json
import S3Disk.JsonShapes
import S3Disk.JournalFile
import S3Disk.Library.Volume
import S3Disk.SealedStateFile
import S3Disk.WatermarkFile
import S3Disk.FileWorld
import S3Disk.FileSafety
import S3Disk.FileDurability
import S3Disk.FileSimulation
import S3Disk.Library.JsonLengths
import S3Disk.FileRoundTrips
import S3Disk.JournalRoundTrip
import S3Disk.ClientEncryption
import S3Disk.Library.Refinement
import S3Disk.EncryptedStore
import S3Disk.RepositoryDescriptor
import S3Disk.DescriptorAgreement
import S3Disk.AncestryWalks
import S3Disk.DiskCache
import S3Disk.DiskCacheSafety
import S3Disk.Library.Extents
import S3Disk.Library.PathSets
import S3Disk.PathSelection
import S3Disk.RangeReads
import S3Disk.Sync.Flight
import S3Disk.Sync.FlightCall
import S3Disk.Sync.FlightSafety
import S3Disk.Sync.WeightedSemaphore
import S3Disk.CLI.MountSet
import S3Disk.Library.Framing
import S3Disk.Library.Rfc3339
import S3Disk.Library.Urls
import S3Disk.MetadataCache
import S3Disk.Mount.InodeIdentities
import S3Disk.Mount.Invalidation
import S3Disk.PublisherState
import S3Disk.PublisherStateSafety
import S3Disk.SealedRoundTrips
import S3Disk.Share.Bearer
import S3Disk.Share.BundleSize
import S3Disk.Share.ClosureDigests
import S3Disk.KeyNamespace
import S3Disk.Share.PublishedSnapshot
