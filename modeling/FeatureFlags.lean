import FeatureFlags.Controller.Schedule
import FeatureFlags.Event.Broadcast
import FeatureFlags.Event.Json
import FeatureFlags.Gate.Json
import FeatureFlags.Json.Lemmas
import FeatureFlags.Proofs.LastGood
import FeatureFlags.Proofs.Outage
import FeatureFlags.Proofs.Resync
import FeatureFlags.Settings
import FeatureFlags.Tree.Lemmas
import FeatureFlags.Proofs.Announcements
import FeatureFlags.Proofs.Registration
import FeatureFlags.Proofs.Visibility
import FeatureFlags.Proofs.Json.Sameness
import FeatureFlags.Proofs.LastSpeaker
import FeatureFlags.Lister.Handles
import FeatureFlags.Proofs.CacheHistory
import FeatureFlags.Proofs.Gate.Grammar
import FeatureFlags.Proofs.Gate.RoundTrip
import FeatureFlags.Proofs.Text.Dotted
import FeatureFlags.Proofs.Settings.Grammar
import FeatureFlags.Proofs.Settings.RoundTrip
import FeatureFlags.Proofs.WriteErrors
import FeatureFlags.Controller.Session
import FeatureFlags.Proofs.Schedule.Ticks
import FeatureFlags.Proofs.Schedule.Syncs
import FeatureFlags.Proofs.Schedule.Lives
import FeatureFlags.Proofs.Schedule.Quiet
import FeatureFlags.Proofs.Broadcast.Inbox
import FeatureFlags.Proofs.Broadcast.Delivery
import FeatureFlags.Proofs.Tree.Access
import FeatureFlags.Proofs.Tree.Lens
import FeatureFlags.Proofs.Tree.Overlay
import FeatureFlags.Proofs.Tree.Algebra
import FeatureFlags.Proofs.Flags.Tokens
import FeatureFlags.Proofs.Flags.AllowList
import FeatureFlags.Proofs.Timestamp.Numerals
import FeatureFlags.Proofs.Timestamp.Grammar
import FeatureFlags.Proofs.Event.RoundTrip
import FeatureFlags.Proofs.Text.Excerpt
