import Switchboard.Backoff
import Switchboard.Bench
import Switchboard.Builder
import Switchboard.Client.Run
import Switchboard.Inbound
import Switchboard.Json.Names
import Switchboard.Json.Shape
import Switchboard.Outbound
import Switchboard.Rehearsal
import Switchboard.Proofs.Settlement
import Switchboard.Proofs.Acts
import Switchboard.Proofs.Moves
import Switchboard.Proofs.Paths
import Switchboard.Proofs.Enduring
import Switchboard.Proofs.Registry
import Switchboard.Proofs.WireForm
import Switchboard.Proofs.ServerView
import Switchboard.Proofs.Ledger
import Switchboard.Proofs.Requests
import Switchboard.Proofs.Backlog
import Switchboard.Proofs.CallVerdicts
import Switchboard.Proofs.CallLifecycle
import Switchboard.Proofs.TopicOrder
import Switchboard.Proofs.Roll
import Switchboard.Proofs.Deeds
import Switchboard.Proofs.Snapshot
import Switchboard.Proofs.Spent
import Switchboard.Proofs.Prologue
import Switchboard.Proofs.NumberText
import Switchboard.Proofs.ValueForm
import Switchboard.Proofs.ValueText
import Switchboard.Proofs.EnvelopeText
import Switchboard.Proofs.Spelling
import Switchboard.Proofs.Replies
import Switchboard.Proofs.Traffic
import Switchboard.Proofs.RequestOrder
import Switchboard.Proofs.Racing
import Switchboard.Proofs.Handles
import Switchboard.Proofs.Refusals
import Switchboard.Proofs.Observers
import Switchboard.Proofs.Drivers
import Switchboard.Proofs.Rigs
import Switchboard.Proofs.Lifecycle
import Switchboard.Proofs.Teardown
import Switchboard.Proofs.Endings
import Switchboard.Proofs.Closing
import Switchboard.Proofs.LinkLoss
import Switchboard.Proofs.FailedReplay
import Switchboard.Proofs.Grammar
import Switchboard.Proofs.LaidOut
import Switchboard.Proofs.EnvelopeForms
import Switchboard.Proofs.CanonicalTopics
import Switchboard.Proofs.Coverage
import Switchboard.Proofs.Audience
import Switchboard.Proofs.Disposal
import Switchboard.Proofs.Pings
import Switchboard.Proofs.Minting
import Switchboard.Proofs.Withdrawals
import Switchboard.Proofs.Relay
import Switchboard.Proofs.Overtaking
import Switchboard.Proofs.Waits
import Switchboard.Proofs.Lookalikes
import Switchboard.Proofs.Preparation
import Switchboard.Proofs.TwoMaps
import Switchboard.Proofs.Standby
