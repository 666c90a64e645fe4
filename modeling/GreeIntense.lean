import GreeIntense.Lib.Memory
import GreeIntense.Lib.Bits
import GreeIntense.Lib.Run
import GreeIntense.Lib.BubbleSort
import GreeIntense.Lib.Rows
import GreeIntense.Lib.AckedRows
import GreeIntense.Lib.Spans
import GreeIntense.Lib.Mean
import GreeIntense.Lib.Tasks
import GreeIntense.MbFrame
import GreeIntense.Slave.Dict
import GreeIntense.Slave.Holding
import GreeIntense.Slave.HoldingSpec
import GreeIntense.Slave.HoldingRoundTrip
import GreeIntense.Slave.ReadWrite
import GreeIntense.Slave.Coils
import GreeIntense.Slave.CoilsSpec
import GreeIntense.Slave.CoilsRoundTrip
import GreeIntense.Slave.Input
import GreeIntense.Slave.Poll
import GreeIntense.Slave.WriteEffect
import GreeIntense.Slave.Extent
import GreeIntense.Slave.Length
import GreeIntense.Slave.Holes
import GreeIntense.Slave.Liveness
import GreeIntense.Slave.Tcp
import GreeIntense.Os.Mutex
import GreeIntense.Os.Tmr
import GreeIntense.Os.Clock
import GreeIntense.Master.Holding
import GreeIntense.Master.HoldingSpec
import GreeIntense.Master.Scan
import GreeIntense.Master.Agreement
import GreeIntense.Master.WriteScan
import GreeIntense.Master.Factor
import GreeIntense.Master.Coils
import GreeIntense.Master.CoilsSpec
import GreeIntense.Master.CoilResponse
import GreeIntense.Master.ScanCoils
import GreeIntense.Master.WritePass
import GreeIntense.Master.Quiet
import GreeIntense.Master.Input
import GreeIntense.Master.Port
import GreeIntense.Master.ReadScan
import GreeIntense.Master.ReadPass
import GreeIntense.Master.Synchronize
import GreeIntense.Master.Bus
import GreeIntense.Master.Receive
import GreeIntense.Master.RtuReceiver
import GreeIntense.Master.Execute
import GreeIntense.Master.Outcome
import GreeIntense.Master.InputSpec
import GreeIntense.Master.Answer
import GreeIntense.Master.Results
import GreeIntense.Module.Event
import GreeIntense.Module.Delivery
import GreeIntense.Module.Eeprom
import GreeIntense.Control.System
import GreeIntense.Control.Device
import GreeIntense.Control.FanCtrl
import GreeIntense.Control.UnitCtrl
import GreeIntense.Control.SystemCtrl
import GreeIntense.Control.Handlers
import GreeIntense.Control.Modes
import GreeIntense.Control.Shutdown
import GreeIntense.Control.Settings
import GreeIntense.Control.FreshAir
import GreeIntense.Control.Demand
import GreeIntense.Control.ModeSwitch
import GreeIntense.Control.ModeAdjust
import GreeIntense.Control.ModeChange
import GreeIntense.Control.ModeTimes
import GreeIntense.Control.FirstRun
import GreeIntense.Control.RunningState
import GreeIntense.Control.SetPoint
import GreeIntense.Control.Sensor
import GreeIntense.Control.SensorCtrl
import GreeIntense.Control.Alarm
import GreeIntense.Control.EnergyTemp
import GreeIntense.Control.Staging
import GreeIntense.Control.Commands
import GreeIntense.Control.HighCO2
import GreeIntense.Control.Ventilation
import GreeIntense.Control.Fallback
import GreeIntense.Control.Averages
import GreeIntense.Control.Fan
import GreeIntense.Master.DevRecords
import GreeIntense.Master.DevTests
import GreeIntense.Master.OffLine
import GreeIntense.Lib.Crc
import GreeIntense.Lib.Linked
import GreeIntense.Master.Crc
import GreeIntense.Master.RtuFrame
import GreeIntense.Control.RunTime
import GreeIntense.Control.Window
import GreeIntense.Master.DevList
import GreeIntense.Module.Registry
import GreeIntense.Lib.Refine
import GreeIntense.Lib.Dictionary
import GreeIntense.Lib.Wire
import GreeIntense.Slave.Server
import GreeIntense.Slave.TcpServer
import GreeIntense.Slave.Rtu
import GreeIntense.Device.Bms
import GreeIntense.Serial.Line
import GreeIntense.Serial.Exchange
import GreeIntense.Lib.Duty
import GreeIntense.Control.Exhaust
import GreeIntense.Control.ExhaustAir
