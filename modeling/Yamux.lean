import Yamux.Spec.Frame
import Yamux.Spec.Stream
import Yamux.Spec.Active
import Yamux.Spec.Connection
import Yamux.Spec.Handle
import Yamux.Spec.Link
import Yamux.Proof.Table
import Yamux.Proof.Step
import Yamux.Proof.Invariant
import Yamux.Proof.Facade
import Yamux.Proof.Account
import Yamux.Proof.Inbound
import Yamux.Proof.Outbound
import Yamux.Proof.Closing
import Yamux.Proof.Flow
import Yamux.Proof.Bytes
import Yamux.Proof.Integrity
import Yamux.Proof.Window
import Yamux.Proof.Ids
import Yamux.Proof.Loop
import Yamux.Proof.Drive
import Yamux.Proof.Records
import Yamux.Proof.GoAway
