import FlrcTnc.Framing.Exact
import FlrcTnc.Framing.Arrivals
import FlrcTnc.Framing.Bursts
import FlrcTnc.Arq.Egress
import FlrcTnc.Arq.Wedge
import FlrcTnc.Arq.Order
import FlrcTnc.Arq.Holdings
import FlrcTnc.Arq.Deadline
import FlrcTnc.Arq.Retention
import FlrcTnc.Arq.AckFirst
import FlrcTnc.Arq.Served
import FlrcTnc.Arq.Replay
import FlrcTnc.Kiss.Sync
import FlrcTnc.Serial.Tasks
import FlrcTnc.Serial.Crc32
import FlrcTnc.Serial.Backlog
import FlrcTnc.Mac.Commands
import FlrcTnc.Mac.OneShot
import FlrcTnc.Config.AsTold
import FlrcTnc.Config.SyncWord
import FlrcTnc.Config.Persistence
import FlrcTnc.Link.Capacity
import FlrcTnc.Node.Timing
import FlrcTnc.Node.Requests
import FlrcTnc.Node.Tunnel
