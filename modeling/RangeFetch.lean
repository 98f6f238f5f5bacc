import RangeFetch.Limits
import RangeFetch.Bytes
import RangeFetch.Sums
import RangeFetch.Xxh3
import RangeFetch.Text.Basic
import RangeFetch.Text.CodePoints
import RangeFetch.Text.Marks
import RangeFetch.Text.Unprintable
import RangeFetch.Text.Record
import RangeFetch.Identity
import RangeFetch.Source.Error
import RangeFetch.Source.Stream
import RangeFetch.Source.Supplier
import RangeFetch.Source.Resolver
import RangeFetch.Source.Memory
import RangeFetch.Chunk.Completion
import RangeFetch.Chunk.Basic
import RangeFetch.Chunk.Handover
import RangeFetch.Chunk.Queue
import RangeFetch.Chunk.QueueHistory
import RangeFetch.Chunk.Splice
import RangeFetch.Chunk.Words
import RangeFetch.Download.Options
import RangeFetch.Download.Stats
import RangeFetch.Download.Downloader
import RangeFetch.Download.Progress
import RangeFetch.Download.Drive
import RangeFetch.File.Error
import RangeFetch.File.Streaming
import RangeFetch.File.Table
import RangeFetch.Domain.CharacterMap
import RangeFetch.Domain.Composition
import RangeFetch.Domain.Direction
import RangeFetch.Domain.Joining
import RangeFetch.Domain.Punycode
import RangeFetch.Domain.Name
import RangeFetch.Http.Host
import RangeFetch.Http.Url
import RangeFetch.Http.Options
import RangeFetch.Http.ContentRange
import RangeFetch.Http.Body
import RangeFetch.Http.Response
import RangeFetch.Http.Redirect
import RangeFetch.Http.Head
import RangeFetch.Http.Transfer
import RangeFetch.Http.Peer
import RangeFetch.Http.Client
import RangeFetch.Session.World
import RangeFetch.Session.Signals
import RangeFetch.Session.Basic
import RangeFetch.Session.Operations
import RangeFetch.Download.History
import RangeFetch.Download.RequestLoop
import RangeFetch.File.Sharing
import RangeFetch.File.Observed
import RangeFetch.Proofs.Download.Moves
import RangeFetch.Proofs.Download.Fidelity
import RangeFetch.Proofs.Download.Discontinuities
import RangeFetch.Proofs.Download.Custody
import RangeFetch.Proofs.File.Happens
import RangeFetch.Proofs.File.ExactlyOnce
import RangeFetch.File.Reading
import RangeFetch.Proofs.Download.Service
import RangeFetch.Proofs.File.Slices
import RangeFetch.Proofs.Source.Memory
import RangeFetch.Proofs.File.Undisturbed
import RangeFetch.Proofs.Download.Driving
import RangeFetch.Proofs.Session.Seats
import RangeFetch.Proofs.Session.Rounds
import RangeFetch.Proofs.Session.Reads
import RangeFetch.Proofs.Chunk.Fragments
import RangeFetch.Proofs.Chunk.Turnover
import RangeFetch.Proofs.Chunk.Priority
import RangeFetch.Proofs.Download.Ending
import RangeFetch.Proofs.Download.Placement
import RangeFetch.Proofs.Download.Connections
import RangeFetch.Proofs.Download.Failure
import RangeFetch.Proofs.Download.Expiry
import RangeFetch.Proofs.Download.Restarts
import RangeFetch.Proofs.Download.Lockstep
import RangeFetch.Proofs.Download.Registers
import RangeFetch.Proofs.Download.Tally
import RangeFetch.Proofs.File.Acts
import RangeFetch.Proofs.File.Balance
import RangeFetch.Proofs.File.Answers
import RangeFetch.Proofs.File.Accounting
import RangeFetch.Proofs.Chunk.Handing
import RangeFetch.Proofs.Chunk.Words
import RangeFetch.Proofs.Http.Skipping
import RangeFetch.Proofs.Http.Values
import RangeFetch.Download.Underway
import RangeFetch.File.TableHistory
import RangeFetch.Proofs.Download.Bounds
import RangeFetch.Proofs.Download.Peers
import RangeFetch.Proofs.Download.Quest
import RangeFetch.Proofs.Download.Rotation
import RangeFetch.Proofs.File.Entries
import RangeFetch.Proofs.File.Handles
import RangeFetch.Proofs.File.Agreement
import RangeFetch.Proofs.Http.Offsets
import RangeFetch.Proofs.Http.Stated
import RangeFetch.Source.Cutting
import RangeFetch.Source.StoreHistory
import RangeFetch.Chunk.OneShot
import RangeFetch.Proofs.Source.Pieces
import RangeFetch.Proofs.Source.Keeping
import RangeFetch.Proofs.Http.Grammar
import RangeFetch.Proofs.Chunk.OneShot
import RangeFetch.Source.PeerRing
import RangeFetch.Proofs.Source.Addresses
import RangeFetch.Proofs.Source.Fairness
