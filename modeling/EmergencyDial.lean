import EmergencyDial.Device.Step
import EmergencyDial.Platform.Table
import EmergencyDial.Selection.Codec
import EmergencyDial.Json.Lawful
import EmergencyDial.Proofs.Promotion
import EmergencyDial.Proofs.Selection.Fitness
import EmergencyDial.Proofs.Selection.Decision
import EmergencyDial.Proofs.Selection.Qualification
import EmergencyDial.Proofs.Flag.Text
import EmergencyDial.Proofs.Json.Record
import EmergencyDial.Proofs.RoundTrip
import EmergencyDial.Proofs.Device.Load
import EmergencyDial.Proofs.Device.Coherence
import EmergencyDial.Proofs.Device.Selection
import EmergencyDial.Proofs.Device.Adjustment
import EmergencyDial.Proofs.Selection.LineUp
import EmergencyDial.Proofs.Device.HandOver
import EmergencyDial.Proofs.Selection.Report
import EmergencyDial.Proofs.Selection.Improvement
import EmergencyDial.Proofs.Device.Roles
import EmergencyDial.Proofs.Device.Commutation
import EmergencyDial.Proofs.Device.Refusal
import EmergencyDial.Proofs.Device.Restore
import EmergencyDial.Proofs.Selection.Text
import EmergencyDial.Proofs.Json.Listing
import EmergencyDial.Proofs.Listings
import EmergencyDial.Proofs.Device.Position
import EmergencyDial.Proofs.Device.Snapshot
import EmergencyDial.Proofs.Device.Addition
import EmergencyDial.Proofs.Promotion.Moves
import EmergencyDial.Proofs.Selection.Dialling
import EmergencyDial.Proofs.Selection.Filtered
import EmergencyDial.Proofs.Device.Network
import EmergencyDial.Proofs.Device.Ordinary
import EmergencyDial.Proofs.Flag.Union
import EmergencyDial.Proofs.Json.Gap
import EmergencyDial.Proofs.Integers
import EmergencyDial.Proofs.Decimal.Rounding
