import DustDevil.Lib.Net
import DustDevil.Lib.AsyncRead

/-!
# Socks5 requests and authentication methods

The types of `dust_devil_core::socks5`.
-/

namespace DustDevil

open Wire

/-- A socks5 request's address (without a port). -/
inductive SocksRequestAddress where
  | ipv4 (addr : Ipv4Addr)
  | ipv6 (addr : Ipv6Addr)
  | domainname (name : Str)
  deriving DecidableEq, Repr

/-- A socks5 request's destination, including the address and port. -/
structure SocksRequest where
  destination : SocksRequestAddress
  port : UInt16
  deriving DecidableEq, Repr

namespace SocksRequest

def fromIpv4 (ipv4 : Ipv4Addr) (port : UInt16) : SocksRequest := ⟨.ipv4 ipv4, port⟩

def fromIpv6 (ipv6 : Ipv6Addr) (port : UInt16) : SocksRequest := ⟨.ipv6 ipv6, port⟩

def fromDomainname (domainname : Str) (port : UInt16) : SocksRequest :=
  ⟨.domainname domainname, port⟩

end SocksRequest

/-- A socks5 authentication method. -/
inductive AuthMethod where
  | noAuth
  | usernameAndPassword
  deriving DecidableEq, Repr

namespace AuthMethod

def fromU8 (value : UInt8) : Option AuthMethod :=
  if value = 0x00 then some .noAuth
  else if value = 0x02 then some .usernameAndPassword
  else none

def intoU8 : AuthMethod → UInt8
  | .noAuth => 0x00
  | .usernameAndPassword => 0x02

end AuthMethod

end DustDevil
