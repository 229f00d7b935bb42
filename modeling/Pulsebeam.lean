import Pulsebeam.Rtp.ParameterSets
import Pulsebeam.Rtp.Skew
import Pulsebeam.Rtp.Shedding
import Pulsebeam.Rtp.Window
import Pulsebeam.Rtp.Pacing
import Pulsebeam.Rtp.Truncation
import Pulsebeam.Control.TopologyRun
import Pulsebeam.Control.Slots
import Pulsebeam.Feedback.Deadline
import Pulsebeam.Feedback.Isolation
import Pulsebeam.Feedback.Watched
import Pulsebeam.Feedback.Outage
import Pulsebeam.Dd.RoundTrip
import Pulsebeam.Rtc.Srtp
import Pulsebeam.Media.H264RoundTrip
import Pulsebeam.Media.Framing
import Pulsebeam.Shard.Hop
import Pulsebeam.Shard.DemuxRelease
import Pulsebeam.Rtc.Scheduler
import Pulsebeam.Rtc.ReceptionLedger
import Pulsebeam.Feedback.Draining
import Pulsebeam.Feedback.Index
import Pulsebeam.Rtc.SctpReuse
import Pulsebeam.Rtc.SctpStorage
import Pulsebeam.Agent.Recovery
import Pulsebeam.Feedback.CreditRun
import Pulsebeam.Cc.Pacer
import Pulsebeam.Membership.View
import Pulsebeam.Downstream.AudioPins
import Pulsebeam.Downstream.AudioStream
import Pulsebeam.Clock
import Pulsebeam.Dd.Fields
