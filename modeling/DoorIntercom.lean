import DoorIntercom.Lib.Numbering
import DoorIntercom.Lib.OrderedRanges
import DoorIntercom.Area.MachineCode
import DoorIntercom.Area.Config
import DoorIntercom.Area.IpPlan
import DoorIntercom.Area.IpOctets
import DoorIntercom.Area.MachineInfo
import DoorIntercom.Area.Devices
import DoorIntercom.Area.InitSpec
import DoorIntercom.Area.BuildingNumbers
import DoorIntercom.Area.WordNumbers
import DoorIntercom.Area.SubnetNumbers
import DoorIntercom.Area.ErrorContract
import DoorIntercom.Area.ObjectMachineInfo
import DoorIntercom.Area.TargetEnumeration
import DoorIntercom.Lib.Transition
import DoorIntercom.Lib.Offsets
import DoorIntercom.Call.Commands
import DoorIntercom.Call.Segmentation
import DoorIntercom.Call.MainActivity
import DoorIntercom.Call.HangUp
import DoorIntercom.Call.Answer
import DoorIntercom.Lib.KeyedMerge
import DoorIntercom.Area.FillInfo
import DoorIntercom.Area.GetAreaInfo
import DoorIntercom.Area.LoadedBuildings
import DoorIntercom.Area.LinkList
import DoorIntercom.Area.Fields
import DoorIntercom.Lib.FallibleRun
import DoorIntercom.Area.ElementFrame
import DoorIntercom.Area.SearchCursors
import DoorIntercom.Area.AreaTargets
import DoorIntercom.Area.AreaField
import DoorIntercom.Area.NetMask
import DoorIntercom.Area.AddressList
import DoorIntercom.Area.AddressRange
import DoorIntercom.Call.TcpClient
import DoorIntercom.Call.PendingCall
import DoorIntercom.Call.Keypad
import DoorIntercom.Audio.Playback
import DoorIntercom.Lib.JavaArray
import DoorIntercom.Video.Rotate
import DoorIntercom.Video.Nv12
import DoorIntercom.Video.Nv21Convertor
import DoorIntercom.Lib.SelfDelimiting
import DoorIntercom.Video.VideoPacket
import DoorIntercom.Video.PreviewFrame
import DoorIntercom.Video.ParameterSets
import DoorIntercom.Video.FrameQueue
import DoorIntercom.Lib.Delimited
import DoorIntercom.Video.ProbeLoop
import DoorIntercom.Video.ProbedSets
import DoorIntercom.Lib.CheckedInt
import DoorIntercom.Area.CountBounds
import DoorIntercom.Call.ReceiveLoops
import DoorIntercom.Lib.Region
import DoorIntercom.Lib.Simulation
import DoorIntercom.Lib.WhileLoop
import DoorIntercom.Area.LinkedArea
import DoorIntercom.Area.LinkedLoading
import DoorIntercom.Area.FreeArea
import DoorIntercom.Area.GivenBack
import DoorIntercom.Lib.Decimal
import DoorIntercom.Lib.History
import DoorIntercom.Area.AddressText
import DoorIntercom.Area.ConfigDocument
import DoorIntercom.Area.SiteAddresses
import DoorIntercom.Area.RoomAddress
import DoorIntercom.Call.Consent
import DoorIntercom.Call.Dialogs
import DoorIntercom.Call.Requests
import DoorIntercom.Call.Interrupt
import DoorIntercom.Call.VideoTarget
import DoorIntercom.Call.TcpServer
import DoorIntercom.Call.ServerHangUp
import DoorIntercom.Call.ServerRefinement
import DoorIntercom.Video.VideoStream
import DoorIntercom.Video.VideoSurfaceView
import DoorIntercom.Call.ViewRecording
import DoorIntercom.Video.EncoderDebugger
import DoorIntercom.Video.EncoderInput
import DoorIntercom.Video.EncoderOutput
