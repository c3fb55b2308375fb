import Rendezvous.Authz.SigCache
import Rendezvous.Identity.KeyIndex
import Rendezvous.Wal.TornTail
import Rendezvous.Wal.Skip
import Rendezvous.Recovery.KeyContinuity
import Rendezvous.Recovery.Overlap
import Rendezvous.Recovery.Flush
import Rendezvous.Recovery.Fence
import Rendezvous.Roster.SyncResult
import Rendezvous.Roster.Owner
import Rendezvous.Roster.Restart
import Rendezvous.Roster.Exhaust
import Rendezvous.Trust.Handshake
import Rendezvous.Lifecycle.Heartbeats
import Rendezvous.Lifecycle.Latch
import Rendezvous.Lifecycle.Nonces
import Rendezvous.Lifecycle.Enrollment
import Rendezvous.Lifecycle.Generations
import Rendezvous.Lifecycle.Expiry
import Rendezvous.Lifecycle.Owners
import Rendezvous.Disclosure.ListCache
import Rendezvous.Disclosure.Hidden
import Rendezvous.Standby.Replicated
import Rendezvous.Audit.Tamper
import Rendezvous.Audit.Delivery
import Rendezvous.Document.Append
import Rendezvous.Admission.Roles
import Rendezvous.Admission.Reinvite
import Rendezvous.Admission.Names
import Rendezvous.Saving.SaveLoop
import Rendezvous.Saving.PushLoop
import Rendezvous.Saving.PairSet
import Rendezvous.Lifecycle.Acknowledged
import Rendezvous.Policy.Limits
import Rendezvous.Lifecycle.Reaper
import Rendezvous.Accept.RateLimiter
import Rendezvous.Webhook.Fanout
import Rendezvous.Dashboard.Samples
