import Urp.Reorder.Order
import Urp.Rx.Bypass
import Urp.Rx.Writes
import Urp.Tx.Numbers
import Urp.Link.Grants
import Urp.Link.Depth
import Urp.Proxy.Delivery
import Urp.Proxy.Clients
import Urp.Endpoint.Closing
import Urp.Conn.Accept
import Urp.Conn.Waiting
import Urp.Conn.Negotiation
import Urp.Conn.Drain
import Urp.Endpoint.Pool
import Urp.Frame.Wire
import Urp.Netlink.Dump
import Urp.Reorder.Twin
import Urp.Tx.Emission
import Urp.Fast.RegMr
import Urp.Netlink.Lifetime
import Urp.Fast.Release
import Urp.Fast.Answers
import Urp.Fast.Teardown
import Urp.Endpoint.Selection
import Urp.Endpoint.Numbers
import Urp.Endpoint.Reset
import Urp.Proxy.Legacy
import Urp.Endpoint.Credits
import Urp.Endpoint.Gate
import Urp.Endpoint.Probes
import Urp.Netlink.Sizing
import Urp.Genl.RoundTrip
import Urp.Rx.Granting
import Urp.Rx.Footprint
import Urp.Fast.Pool
import Urp.Rx.Delay
import Urp.Fast.Landing
import Urp.Fast.Entries
import Urp.Fast.Register
import Urp.Reorder.Fallible
import Urp.Tx.Room
import Urp.Bench.Chunks
import Urp.Bench.Poison
import Urp.Genl.Tree
import Urp.Exporter.Cap
import Urp.ControlPlane.Admission
import Urp.ControlPlane.Reconnect
import Urp.Genl.Crowd
import Urp.Client.Calls
import Urp.Bench.Bufring
import Urp.Fast.Own
import Urp.Bench.Echoes
