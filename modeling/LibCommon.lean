import LibCommon.Field
import LibCommon.Webhook.Deprecated
import LibCommon.Webhook.Contributions
import LibCommon.Webhook.Admission
import LibCommon.Meta
import LibCommon.Unstructured
import LibCommon.Object.Ready
import LibCommon.Object.OwnerRef
import LibCommon.ClusterRole
import LibCommon.ClusterRole.Reconcile
import LibCommon.Object.Controller
import LibCommon.Object.References
import LibCommon.ClusterRole.Interleaving
import LibCommon.ClusterRole.Lifecycle
