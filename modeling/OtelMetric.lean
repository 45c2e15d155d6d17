import OtelMetric.GoTime
import OtelMetric.Export
import OtelMetric.Pull.Cache
import OtelMetric.Pull.Controller
import OtelMetric.Pull.Runs
import OtelMetric.Pull.Locking
import OtelMetric.Stdout.Update
import OtelMetric.Stdout.Batch
import OtelMetric.Stdout.Exporter
import OtelMetric.CollectorRemote
