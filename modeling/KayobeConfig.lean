import KayobeConfig.Artifacts.Release
import KayobeConfig.BootEntries.Reset
import KayobeConfig.CloudFacts.Grouping
import KayobeConfig.Compute.Drain
import KayobeConfig.Firewall.Default
import KayobeConfig.Firewall.Precedence
import KayobeConfig.Firewall.Specification
import KayobeConfig.GrowRoot.Partitions
import KayobeConfig.HostImages.Release
import KayobeConfig.Hotfix.Containers
import KayobeConfig.ImageBuild.Manifests
import KayobeConfig.KollaImages.Fallback
import KayobeConfig.KollaImages.Registry
import KayobeConfig.KollaImages.Validation
import KayobeConfig.NetworkNames.Precision
import KayobeConfig.Octavia.Failover
import KayobeConfig.Octavia.Release
import KayobeConfig.Ovn.Alignment
import KayobeConfig.Ovn.Idempotence
import KayobeConfig.Ovn.Preview
import KayobeConfig.PortGroups.Convergence
import KayobeConfig.PortGroups.Playbook
import KayobeConfig.PullRequest.AllInOne
import KayobeConfig.PullRequest.Gate
import KayobeConfig.Pulp.Delivery
import KayobeConfig.Pulp.Repositories
import KayobeConfig.Rekey.Lockout
import KayobeConfig.ScanImages.Accounting
import KayobeConfig.ScanImages.Allowed
import KayobeConfig.SecretStore.Preservation
import KayobeConfig.Smartmon.Alerts
import KayobeConfig.Smartmon.Counters
import KayobeConfig.Smartmon.Identity
import KayobeConfig.Smartmon.Ratings
import KayobeConfig.Smartmon.Robustness
