/-!
# What can be wrong with an address
-/

namespace ControlPlane.Url

/-- The reasons for which a text is no URL. -/
inductive Fault where
  | emptyHost | invalidDomain | invalidPort | invalidIpv4 | invalidIpv6 | invalidDomainCharacter
  | relativeWithoutBase | relativeWithRootlessBase | tooLong
deriving DecidableEq, Repr

/-- The words for a reason. -/
def Fault.text : Fault → String
  | emptyHost => "empty host"
  | invalidDomain => "invalid international domain name"
  | invalidPort => "invalid port number"
  | invalidIpv4 => "invalid IPv4 address"
  | invalidIpv6 => "invalid IPv6 address"
  | invalidDomainCharacter => "invalid domain character"
  | relativeWithoutBase => "relative URL without a base"
  | relativeWithRootlessBase => "relative URL with a cannot-be-a-base base"
  | tooLong => "URLs more than 4 GB are not supported"

end ControlPlane.Url
