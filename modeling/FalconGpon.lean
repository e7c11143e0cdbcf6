import FalconGpon.Omci.CoreRetransmit
import FalconGpon.Omci.SwWindow
import FalconGpon.Omci.PmEndTime
import FalconGpon.Omci.PmThreshold
import FalconGpon.Omci.MibUpload
import FalconGpon.Ploam.EmergencyStop
import FalconGpon.Ploam.Addressing
import FalconGpon.Omci.AlarmSet
import FalconGpon.Omci.SwPair
import FalconGpon.Mcc.Admission
import FalconGpon.Api.MulticastRuns
import FalconGpon.Api.TcontRuns
import FalconGpon.Gpe.Dma
import FalconGpon.Vlan.TaggingFilter
import FalconGpon.Vlan.SplitTables
import FalconGpon.Omci.PowerShedding
import FalconGpon.Omci.LoopTimers
import FalconGpon.Api.DscpRuns
import FalconGpon.Api.FirmwareGuard
import FalconGpon.Mcc.ClientRecords
import FalconGpon.Mcc.RecordSources
import FalconGpon.Mcc.ExtensionHeaders
import FalconGpon.Mcc.RateLimit
import FalconGpon.Onu.EventRing
import FalconGpon.Omci.SwTimers
import FalconGpon.Mcc.GroupTimers
import FalconGpon.Mcc.MembershipInterval
import FalconGpon.Vlan.Collisions
import FalconGpon.Api.PortSlotsRuns
import FalconGpon.Api.ShaperRuns
import FalconGpon.Omci.AvcWrite
import FalconGpon.Api.AniG
import FalconGpon.Omci.MibListing
import FalconGpon.Api.MulticastRemoval
import FalconGpon.Api.IgmpReport
import FalconGpon.Omci.KeyedTables
import FalconGpon.Omci.SecurityHandshake
import FalconGpon.Api.McLockRuns
import FalconGpon.Api.QueueShaperRuns
import FalconGpon.Api.FilterPreassignRuns
import FalconGpon.Mcc.SrcNodes
import FalconGpon.Omci.TableTimers
import FalconGpon.Api.GemPorts
import FalconGpon.Omci.SelfDescription
import FalconGpon.Vlan.OperListRefusal
