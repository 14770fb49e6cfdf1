import KvdRaft.Proto
import KvdRaft.RaftLog
import KvdRaft.Raft
import KvdRaft.Campaign
import KvdRaft.Membership
import KvdRaft.Node
import KvdRaft.MembershipInv
import KvdRaft.Election
import KvdRaft.Reset
import KvdRaft.Invariants
import KvdRaft.Timer
import KvdRaft.Persist
import KvdRaft.Configuration
