import UeMonitor.Python.Text
import UeMonitor.Python.Run
import UeMonitor.Tshark
import UeMonitor.PacketMonitor.Record
import UeMonitor.PacketMonitor.Monitor
import UeMonitor.PacketMonitor.Main
import UeMonitor.Proofs.Decode
import UeMonitor.Proofs.Stream
import UeMonitor.Proofs.Modes
import UeMonitor.Proofs.Exit
import UeMonitor.Proofs.Startup
import UeMonitor.Proofs.OneFault
import UeMonitor.Proofs.Interrupt
import UeMonitor.Proofs.IoError
import UeMonitor.Proofs.Cancel
import UeMonitor.TxRxMonitor
import UeMonitor.Proofs.Sampler
import UeMonitor.Proofs.Stopped
import UeMonitor.Proofs.Numeral
import UeMonitor.Proofs.Inet
