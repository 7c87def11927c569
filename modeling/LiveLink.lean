import LiveLink.Config.Load
import LiveLink.Proofs.Settling
import LiveLink.Payload.ChoiceText
import LiveLink.Proofs.Operations
import LiveLink.Proofs.Coherence
import LiveLink.Proofs.Histories
import LiveLink.Proofs.Callers
import LiveLink.Proofs.StatusHistory
import LiveLink.Proofs.FanOut
import LiveLink.Proofs.Unaffected
import LiveLink.Proofs.Registrations
import LiveLink.Proofs.Inbound
import LiveLink.Proofs.Outbound
import LiveLink.Proofs.Succession
import LiveLink.Proofs.Schedule
import LiveLink.Proofs.ViewMessages
import LiveLink.Proofs.ViewWorlds
import LiveLink.Proofs.ViewListeners
import LiveLink.Proofs.SessionSteps
import LiveLink.Proofs.Announcements
import LiveLink.Proofs.Withdrawals
import LiveLink.Proofs.SharedInterests
import LiveLink.Proofs.RoundTrip
import LiveLink.Proofs.Overtaking
import LiveLink.Proofs.Secrecy
import LiveLink.Proofs.Unread
import LiveLink.Proofs.Transcripts
import LiveLink.Proofs.Stints
import LiveLink.Proofs.Residue
import LiveLink.Proofs.WrittenForms
import LiveLink.Proofs.Removals
import LiveLink.Proofs.Arrangement
import LiveLink.Proofs.Doubling
import LiveLink.Proofs.TokenParameter
import LiveLink.Proofs.Layers
