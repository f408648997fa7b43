import CallingService.Frontend.HostListReplies
import CallingService.Backend.Tcc.ArrivalTimes
import CallingService.Backend.Tcc.Acknowledgements
import CallingService.Backend.Call.Authority
import CallingService.Backend.Call.SingleSsrcRun
import CallingService.Backend.Call.Padding
import CallingService.Backend.Call.UserStatus
import CallingService.Backend.PacketServer.TcpFraming
import CallingService.Backend.PacketServer.ConnectionMapRun
import CallingService.Backend.AddressOwners
import CallingService.Rooms.OneCallPerRoom
import CallingService.Common.CounterRuns
import CallingService.Backend.PacerRateBound
import CallingService.Backend.Call.ApprovalPersistenceRun
import CallingService.Backend.Call.IdealAllocation
import CallingService.Backend.Call.ForwardedVideo
import CallingService.Backend.IceLite.Responses
import CallingService.Backend.Rtp.TemplateCount
import CallingService.Backend.Rtp.ControlAgreement
import CallingService.Backend.Rtp.LossStatistics
import CallingService.Backend.Rtp.JitterEstimate
import CallingService.Frontend.UpsertMerge
import CallingService.Frontend.UrnRounds
import CallingService.Backend.Call.TargetSendRates
import CallingService.Backend.Call.HandConvergence
import CallingService.Backend.Call.KeyFrameSpacing
import CallingService.Backend.Call.SpeakerUpdates
import CallingService.Backend.Call.CallTime
import CallingService.Backend.Rtp.RememberedPackets
import CallingService.Backend.Call.RefusedMedia
import CallingService.Backend.Rtp.NackFastPath
import CallingService.Backend.PacketServer.TimerThreads
import CallingService.Backend.Rtp.SrtpDelivery
import CallingService.Backend.Googcc.CongestionController
import CallingService.Frontend.ConferenceRuns
