import AppRafter.Leader.Exclusion
import AppRafter.Migration.Splitting
import AppRafter.Application.ClaimGate
import AppRafter.Application.Gate
import AppRafter.Application.ImageHistory
import AppRafter.Migration.Stale
import AppRafter.Provisioner.SweepSafety
import AppRafter.Provisioner.AclResync
import AppRafter.Provisioner.SharedDelete
import AppRafter.Provisioner.PgReclaim
import AppRafter.Provisioner.SharedVolume
import AppRafter.Provisioner.FirstReady
import AppRafter.Provisioner.Retention
import AppRafter.Nats.OwnSubjects
import AppRafter.Nats.ObjectNames
import AppRafter.Nats.QuotaRuns
import AppRafter.Backup.CheckAgrees
import AppRafter.Backup.CleanupSafe
import AppRafter.Claim.Described
import AppRafter.Credential.Derived
import AppRafter.Credential.Revoked
import AppRafter.Hetzner.SharedProject
import AppRafter.Restore.DataOnly
import AppRafter.Hetzner.Origin
import AppRafter.Egress.Backends
import AppRafter.Platform.Upgrade
import AppRafter.Platform.Quiet
import AppRafter.Platform.Tags
import AppRafter.Backup.Config
import AppRafter.Platform.BackupRetention
import AppRafter.Backup.Named
import AppRafter.Platform.HealthEvidence
import AppRafter.Restore.ReadCrs
import AppRafter.Manifest.Render
import AppRafter.Nats.Reserved
import AppRafter.Nats.Inventory
import AppRafter.Problems.Flush
import AppRafter.Cli.StateKept
import AppRafter.Metrics.Readers
import AppRafter.Leader.Tenure
import AppRafter.Backup.RunTag
import AppRafter.Credential.Validity
import AppRafter.Leader.K8sTime
import AppRafter.Provisioner.OwnerStrip
import AppRafter.Provisioner.PoolNames
import AppRafter.Cli.PodReady
import AppRafter.Application.EnvDigest
