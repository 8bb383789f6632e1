import PrinterRoster.Main
import PrinterRoster.Mdns.Browser
import PrinterRoster.Proofs.Address.Text
import PrinterRoster.Proofs.Cache.Fetches
import PrinterRoster.Proofs.Capabilities.ListAttributes
import PrinterRoster.Proofs.Config.File
import PrinterRoster.Proofs.Course
import PrinterRoster.Proofs.Hub.Operations
import PrinterRoster.Proofs.Hub.Picture
import PrinterRoster.Proofs.Json.Grammar
import PrinterRoster.Proofs.Json.Numerals
import PrinterRoster.Proofs.Json.RoundTrip
import PrinterRoster.Proofs.Json.Strings
import PrinterRoster.Proofs.KnownGood.File
import PrinterRoster.Proofs.KnownGood.Order
import PrinterRoster.Proofs.Manual.Displaced
import PrinterRoster.Proofs.Manual.File
import PrinterRoster.Proofs.Manual.Outage
import PrinterRoster.Proofs.Manual.Refresh
import PrinterRoster.Proofs.Manual.RefreshLog
import PrinterRoster.Proofs.Manual.Removed
import PrinterRoster.Proofs.Manual.Saved
import PrinterRoster.Proofs.Manual.Stamps
import PrinterRoster.Proofs.Manual.Watching
import PrinterRoster.Proofs.Mdns.Live
import PrinterRoster.Proofs.Mdns.Names
import PrinterRoster.Proofs.Probe.FirstAnswer
import PrinterRoster.Proofs.Session.Confirmed
import PrinterRoster.Proofs.Session.Deadline
import PrinterRoster.Proofs.Session.Dialogue
import PrinterRoster.Proofs.Session.Duplicates
import PrinterRoster.Proofs.Session.End
import PrinterRoster.Proofs.Session.Expiry
import PrinterRoster.Proofs.Session.Ghosts
import PrinterRoster.Proofs.Session.Grace
import PrinterRoster.Proofs.Session.Heritage
import PrinterRoster.Proofs.Session.Independence
import PrinterRoster.Proofs.Session.NetworkAddress
import PrinterRoster.Proofs.Session.Operations
import PrinterRoster.Proofs.Session.Presence
import PrinterRoster.Proofs.Session.Pursuit
import PrinterRoster.Proofs.Session.RecordChange
import PrinterRoster.Proofs.Session.Refusals
import PrinterRoster.Proofs.Session.Reports
import PrinterRoster.Proofs.Session.Restart
import PrinterRoster.Proofs.Session.Review
import PrinterRoster.Proofs.Session.Stopped
import PrinterRoster.Proofs.Session.Subscriber
import PrinterRoster.Proofs.Session.Supply
import PrinterRoster.Proofs.Session.Takeover
import PrinterRoster.Proofs.Session.Timeline
import PrinterRoster.Proofs.Text.Digits
import PrinterRoster.Proofs.Text.Hex
import PrinterRoster.Proofs.Text.Trim
import PrinterRoster.Proofs.Uri.Parts
import PrinterRoster.Proofs.Uri.Targets
import PrinterRoster.Proofs.Uuid.Agreement
import PrinterRoster.Proofs.Uuid.Forms
