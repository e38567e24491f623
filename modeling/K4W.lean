import K4W.Library.Machine
import K4W.Library.Loop
import K4W.Library.Ring
import K4W.Library.CInt
import K4W.Library.Binary
import K4W.Library.Shell
import K4W.Library.Span
import K4W.Library.Stretch
import K4W.Library.Interchange
import K4W.Library.Messages
import K4W.Daemon.PidLock
import K4W.Daemon.Termination
import K4W.Daemon.AudioStop
import K4W.Daemon.PauseProtocol
import K4W.Daemon.MotorExclusivity
import K4W.Daemon.PcmLifecycle
import K4W.Shm.Layout
import K4W.Shm.MappingSize
import K4W.Shm.ReaderAgreement
import K4W.Shm.OverlapSafety
import K4W.Shm.Deliveries
import K4W.Shm.AudioPeriods
import K4W.Shm.ReaderBounds
import K4W.Shm.SequenceGates
import K4W.OpenNI.Delivery
import K4W.OpenNI.Registration
import K4W.Motor.Control
import K4W.Motor.Matching
import K4W.Motor.Handles
import K4W.Daemon.ReplyData
import K4W.Daemon.ReplyTruth
import K4W.Daemon.TiltReset
import K4W.Daemon.Quiescence
import K4W.Daemon.DeviceLoss
import K4W.PipeWire.Source
import K4W.PipeWire.Bounds
import K4W.PipeWire.Rows
import K4W.PipeWire.Push
import K4W.PipeWire.Tearing
import K4W.Firmware.Upload
import K4W.Firmware.PartialUpload
import K4W.Firmware.Bootloader
import K4W.Gui.DaemonControl
import K4W.Gui.RootCommands
import K4W.Gui.RootPassword
import K4W.Daemon.StatusLayout
import K4W.Gui.Framing
import K4W.Gui.SensorPoll
import K4W.Gui.Skeletons
import K4W.Gui.BoxClipping
import K4W.V4l2.Yuyv
import K4W.Motor.Orders
import K4W.Daemon.WireLog
import K4W.Library.Mailbox
import K4W.Daemon.Publishing
import K4W.OpenNI.CameraPath
import K4W.Library.Ownership
import K4W.Daemon.Lifecycle
import K4W.Library.Volumes
import K4W.Gui.Views
import K4W.Gui.Recording
import K4W.Library.BinaryBounds
import K4W.Library.Greatest
import K4W.Gui.Pose
import K4W.Gui.Drawing
import K4W.Shm.Restarts
import K4W.Gui.SingleInstance
import K4W.Gui.Floats
import K4W.Gui.Levels
import K4W.Gui.TiltControls
import K4W.Library.CText
import K4W.Daemon.PulseModules
