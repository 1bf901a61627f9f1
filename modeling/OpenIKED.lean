import OpenIKED.Shared.Memory
import OpenIKED.Shared.CString
import OpenIKED.Shared.SkipScan
import OpenIKED.Util.Sockaddr
import OpenIKED.Ikev2.PrintId
import OpenIKED.Policy.PolicyTest
import OpenIKED.Ikev2.PldParse
import OpenIKED.Policy.SaState
import OpenIKED.Ikev2.Eap
import OpenIKED.Shared.Slots
import OpenIKED.Ikev2.Frag
import OpenIKED.Ikev2.FragSend
import OpenIKED.Shared.Cipher
import OpenIKED.Ikev2.MsgCrypt
import OpenIKED.Ikev2.Establish
import OpenIKED.Shared.Run
import OpenIKED.Ikev2.CertAuth
import OpenIKED.Policy.Lookup
import OpenIKED.Ikev2.MsgWindow
import OpenIKED.Ikev2.SaKeys
import OpenIKED.Shared.Linked
import OpenIKED.Policy.Refcnt
import OpenIKED.Policy.Moves
import OpenIKED.Policy.Lifetime
import OpenIKED.Parse.Flows
import OpenIKED.Ikev2.TrafficSel
import OpenIKED.Shared.Memcmp
import OpenIKED.Ikev2.ChildSas
import OpenIKED.Ikev2.Rekey
import OpenIKED.Policy.Dstid
import OpenIKED.Ikev2.AddrPool
import OpenIKED.Shared.BigEndian
import OpenIKED.Crypto.Dh
import OpenIKED.Ikev2.Prfplus
import OpenIKED.Policy.Proposals
import OpenIKED.Ikev2.AuthOctets
import OpenIKED.Ikev2.MsgQueue
import OpenIKED.Ikev2.CertBundle
import OpenIKED.Ikev2.ChapMs
import OpenIKED.Ikev2.DstidIndex
import OpenIKED.Ikev2.SaPayload
