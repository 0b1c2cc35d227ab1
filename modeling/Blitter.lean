import Blitter.Buffer.Mapping
import Blitter.Buffer.Pack
import Blitter.Buffer.Unpack
import Blitter.Main
import Blitter.Proofs.Accounts
import Blitter.Proofs.Addressable
import Blitter.Proofs.CallEffect
import Blitter.Proofs.CompressedInput
import Blitter.Proofs.CompressedOutput
import Blitter.Proofs.CoreRequest
import Blitter.Proofs.Custody
import Blitter.Proofs.Degradation
import Blitter.Proofs.Delivery
import Blitter.Proofs.Description
import Blitter.Proofs.Dispatch
import Blitter.Proofs.Draining
import Blitter.Proofs.Envelope
import Blitter.Proofs.Extent
import Blitter.Proofs.Fences
import Blitter.Proofs.ForcedFormat
import Blitter.Proofs.LegacyUnit
import Blitter.Proofs.LinearStrides
import Blitter.Proofs.ListValues
import Blitter.Proofs.Numerals
import Blitter.Proofs.Occupancy
import Blitter.Proofs.OverlayGeometry
import Blitter.Proofs.Pacing
import Blitter.Proofs.PinnedCores
import Blitter.Proofs.Planes
import Blitter.Proofs.Preparation
import Blitter.Proofs.Proportions
import Blitter.Proofs.ReadBack
import Blitter.Proofs.RefusedStrides
import Blitter.Proofs.Regions
import Blitter.Proofs.Reservation
import Blitter.Proofs.Resumption
import Blitter.Proofs.Rounding
import Blitter.Proofs.Rows
import Blitter.Proofs.ScaleRatio
import Blitter.Proofs.Settings
import Blitter.Proofs.SourceRegion
import Blitter.Proofs.Strides
import Blitter.Proofs.Waiting
import Blitter.Proofs.WithoutOverlay
import Blitter.Session.Run
import Blitter.Vendor.Fence
import Blitter.Vendor.Library
