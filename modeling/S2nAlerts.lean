import S2nAlerts.Errno
import S2nAlerts.Connection
import S2nAlerts.Inbound
import S2nAlerts.Outbound
import S2nAlerts.Run
import S2nAlerts.ReaderInvariant
import S2nAlerts.QueueInvariant
import S2nAlerts.Independence
import S2nAlerts.ErrorAlert
import S2nAlerts.AlertStream
import S2nAlerts.Lifecycle
import S2nAlerts.Sending
