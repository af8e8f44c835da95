import Clusterpedia.Proof.Signals
import Clusterpedia.Proof.Registry
import Clusterpedia.Proof.Epochs
import Clusterpedia.Proof.RefreshRun
import Clusterpedia.Proof.Removal
import Clusterpedia.Proof.Shutdown
import Clusterpedia.Proof.Resync
import Clusterpedia.Proof.WaitGroup
import Clusterpedia.Proof.Handler
import Clusterpedia.Proof.Close
import Clusterpedia.Proof.Watermarks
import Clusterpedia.Proof.Conditions
import Clusterpedia.Proof.Outcomes
