import ObjectListing.Filter.Document
import ObjectListing.Main
import ObjectListing.Session
import ObjectListing.Store.Memory
import ObjectListing.Store.Scripted
import ObjectListing.FileSystem.Building
import ObjectListing.Proofs.Text.Level
import ObjectListing.Proofs.Store.MemoryPages
import ObjectListing.Proofs.Listing.InOrder
import ObjectListing.Proofs.Retry
import ObjectListing.Proofs.Store.Watched
import ObjectListing.Proofs.Listing.Course
import ObjectListing.Proofs.Store.MemoryCalls
import ObjectListing.Proofs.Listing.Follow
import ObjectListing.Proofs.Listing.Halting
import ObjectListing.Proofs.Listing.Sound
import ObjectListing.Proofs.Listing.Shared
import ObjectListing.Proofs.Listing.Writers
import ObjectListing.Proofs.Listing.Exactness
import ObjectListing.Proofs.Listing.Visit
import ObjectListing.Proofs.Store.SizeBlind
import ObjectListing.Proofs.Listing.Truncation
import ObjectListing.Proofs.Listing.SideBySide
import ObjectListing.Proofs.Listing.History
import ObjectListing.Proofs.Store.Numbered
import ObjectListing.Proofs.Listing.Failure
import ObjectListing.Proofs.Store.Flaky
import ObjectListing.Proofs.Listing.Absorption
import ObjectListing.Proofs.Listing.Buckets
import ObjectListing.Proofs.Time.Tick
import ObjectListing.Proofs.Listing.Attempts
import ObjectListing.Proofs.Listing.Cancellation
import ObjectListing.Proofs.Text.Names
import ObjectListing.Proofs.FileSystem.Tree
import ObjectListing.Proofs.Store.Mirror
import ObjectListing.Proofs.Store.DirectoryPages
import ObjectListing.Proofs.Listing.Mirroring
import ObjectListing.Proofs.Uri.RoundTrip
import ObjectListing.Proofs.Listing.Retrieval
import ObjectListing.Proofs.Store.Confinement
import ObjectListing.Proofs.Store.Chaining
import ObjectListing.Proofs.Store.Closure
import ObjectListing.Proofs.Store.Snapshots
import ObjectListing.Proofs.Timeline
import ObjectListing.Proofs.Listing.Discipline
import ObjectListing.Proofs.Store.RemotePages
import ObjectListing.Proofs.Store.BucketPages
import ObjectListing.Proofs.Listing.CallCount
import ObjectListing.Proofs.Filter.Sizes
import ObjectListing.Proofs.Filter.Ages
import ObjectListing.Proofs.Filter.AgeWindows
import ObjectListing.Proofs.Filter.Names
import ObjectListing.Proofs.Filter.Compiling
import ObjectListing.Proofs.FileRoot
import ObjectListing.Proofs.Backoff
import ObjectListing.Proofs.Store.MemoryHistory
import ObjectListing.Proofs.Refusal
import ObjectListing.Proofs.Listing.Stack
import ObjectListing.Proofs.Listing.Progress
import ObjectListing.Proofs.Text.LastName
import ObjectListing.Proofs.Listing.Chosen
