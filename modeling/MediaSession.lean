import MediaSession.Audio.Handles
import MediaSession.Capture.Pacing
import MediaSession.Capture.Text
import MediaSession.Codec.Json
import MediaSession.Codec.Mime
import MediaSession.CodecList.Binding
import MediaSession.CodecList.Query
import MediaSession.CodecList.Settings
import MediaSession.CodecList.Text
import MediaSession.Device.FrameStore
import MediaSession.Version
import MediaSession.Proofs.CodecList.Allotment
import MediaSession.Proofs.CodecList.Binding
import MediaSession.Proofs.CodecList.Rebinding
import MediaSession.Proofs.Capture.Runs
import MediaSession.Proofs.Capture.Walk
import MediaSession.Proofs.Keyed
import MediaSession.Proofs.Device.History
import MediaSession.Proofs.Device.Pushes
import MediaSession.Proofs.Device.Store
import MediaSession.Proofs.Device.Contents
import MediaSession.Proofs.Capture.Live
import MediaSession.Proofs.Device.Feed
import MediaSession.Proofs.Device.Gaps
import MediaSession.Proofs.Capture.Ticks
import MediaSession.Proofs.Capture.Arrival
import MediaSession.Proofs.Capture.Distance
import MediaSession.Proofs.Capture.Drift
import MediaSession.Proofs.Capture.Messages
import MediaSession.Proofs.Capture.Steady
import MediaSession.Proofs.Capture.Jump
import MediaSession.Proofs.Capture.Losses
import MediaSession.Proofs.Capture.Failure
import MediaSession.Proofs.Codec.Identity
import MediaSession.Proofs.Codec.Tables
import MediaSession.Proofs.Codec.Naming
import MediaSession.Proofs.Codec.Recognition
import MediaSession.Proofs.Codec.Splitting
import MediaSession.Proofs.CodecList.Adoption
import MediaSession.Proofs.CodecList.Definitions
import MediaSession.Proofs.CodecList.Changes
import MediaSession.Proofs.CodecList.Negotiation
import MediaSession.Proofs.Audio.Holders
import MediaSession.Proofs.Audio.Handles
import MediaSession.Proofs.Audio.Scaling
import MediaSession.Proofs.Audio.Accumulators
import MediaSession.Proofs.Audio.Exactness
import MediaSession.Proofs.Audio.Passing
import MediaSession.Proofs.Audio.Magnitude
import MediaSession.Proofs.Audio.Conversion
import MediaSession.Proofs.Capture.Isolation
import MediaSession.Proofs.Capture.Delivery
import MediaSession.Proofs.Capture.Accounts
import MediaSession.Proofs.Capture.Skipping
import MediaSession.Proofs.Capture.Phase
import MediaSession.Proofs.CodecList.Adding
import MediaSession.Proofs.CodecList.Appending
import MediaSession.Proofs.CodecList.Views
import MediaSession.Proofs.CodecList.Listing
import MediaSession.Proofs.CodecList.Validation
import MediaSession.Proofs.Json.Grammar
import MediaSession.Proofs.Json.Reading
import MediaSession.Proofs.Json.Printing
import MediaSession.Proofs.Json.RoundTrip
import MediaSession.Proofs.Json.Fields
import MediaSession.Proofs.Json.Overlay
