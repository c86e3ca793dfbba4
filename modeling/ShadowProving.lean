import ShadowProving.Word
import ShadowProving.Chain
import ShadowProving.Header
import ShadowProving.Blocks
import ShadowProving.Scan
import ShadowProving.CommittedBatch
import ShadowProving.SyncBatch
import ShadowProving.Replay
import ShadowProving.Scheduler
import ShadowProving.Independence
