/-
Purpose: the gateway's target grammar, address ranges, profiles and admission
policy (`gateway.hpp`, `gateway_protocol.cpp`).

Texts are their bytes.  Where the source walks over the groups of a literal, the
groups are cut first: a leading or trailing separator has been refused by then, so
that the two see the same groups.  `int` values are integers, since the validators
do not bound the `prefix_bits` of a range.
-/
import Heyaki.Core.Limits

namespace Heyaki

def gatewayError (code : ErrorCode) (detail : String) : Error :=
  { code := code, component := "gateway", safeDetail := detail }

/-! ### Refusals -/

inductive GatewayRefusal where
  | capabilityNotNegotiated | invalidTarget | notEnabled | scopeDenied | policyDenied
  | quotaExhausted | dialFailed | dialDeadline | localFailure
  deriving Repr, Inhabited, DecidableEq

/-- The status a refused gateway stream is reset with. -/
def gatewayRefusalStatus : GatewayRefusal → StableStatus
  | .capabilityNotNegotiated => .protocolError
  | .invalidTarget | .scopeDenied | .policyDenied => .permissionDenied
  | .quotaExhausted => .resourceExhausted
  | .notEnabled => .unimplemented
  | .dialFailed => .unavailable
  | .dialDeadline => .deadlineExceeded
  | .localFailure => .internal

/-! ### Literals -/

namespace Ascii

def dot : UInt8 := 46
def colon : UInt8 := 58
def slash : UInt8 := 47
def hyphen : UInt8 := 45
def underscore : UInt8 := 95
def zero : UInt8 := 48

variable (byte : UInt8)

def isDigit : Bool := 48 ≤ byte && byte ≤ 57
def isLower : Bool := 97 ≤ byte && byte ≤ 122
def isUpper : Bool := 65 ≤ byte && byte ≤ 90

def hexDigit? : Option UInt16 :=
  if isDigit byte then some (byte - 48).toUInt16
  else if 97 ≤ byte && byte ≤ 102 then some (byte - 97 + 10).toUInt16
  else if 65 ≤ byte && byte ≤ 70 then some (byte - 65 + 10).toUInt16
  else none

/-- A digit string as a number, digit by digit. -/
def decimal? (digits : List UInt8) : Option Nat :=
  digits.foldlM (fun value byte =>
    if isDigit byte then some (value * 10 + (byte.toNat - 48)) else none) 0

def hexadecimal? (digits : List UInt8) : Option UInt16 :=
  digits.foldlM (fun (value : UInt16) byte =>
    (hexDigit? byte).map fun digit => (value <<< 4) ||| digit) 0

end Ascii

open Ascii

/-- One group of a dotted quad. -/
def ipv4Octet? (group : List UInt8) : Option UInt8 :=
  if group.isEmpty || group.length > 3 then none
  else if group.length > 1 && group.head? == some zero then none
  else
    match decimal? group with
    | none => none
    | some value => if value > 255 then none else some (UInt8.ofNat value)

variable (text : List UInt8)

def ipv4Octets : Option (List UInt8) :=
  if text.isEmpty || text.head? == some dot || text.getLast? == some dot then none
  else do
    let octets ← (text.splitOn dot).mapM ipv4Octet?
    if octets.length ≠ 4 then none else some octets

/-- One group of an IPv6 part: a dotted quad stands for two values. -/
def ipv6Group? (allowV4 : Bool) (group : List UInt8) : Option (List UInt16) :=
  if group.contains dot then
    if !allowV4 then none
    else
      match ipv4Octets group with
      | some [one, two, three, four] =>
        some [(one.toUInt16 <<< 8) ||| two.toUInt16, (three.toUInt16 <<< 8) ||| four.toUInt16]
      | _ => none
  else if group.isEmpty || group.length > 4 then none
  else (hexadecimal? group).map fun value => [value]

/-- Only the last group of a part may be a dotted quad. -/
def ipv6Values (allowV4Tail : Bool) : List (List UInt8) → Option (List UInt16)
  | [] => some []
  | group :: rest => do
    let values ← ipv6Group? (allowV4Tail && rest.isEmpty) group
    let others ← ipv6Values allowV4Tail rest
    return values ++ others

def parseIpv6Part (part : List UInt8) (allowV4Tail : Bool) : Option (List UInt16) :=
  if part.isEmpty then some []
  else if part.head? == some colon || part.getLast? == some colon then none
  else do
    let values ← ipv6Values allowV4Tail (part.splitOn colon)
    if values.length > 8 then none else some values

/-- What stands before and behind the first `::`. -/
def cutCompression : List UInt8 → Option (List UInt8 × List UInt8)
  | [] => none
  | first :: rest =>
    if first = colon ∧ rest.head? = some colon then some ([], rest.tail)
    else (cutCompression rest).map fun (head, tail) => (first :: head, tail)

def ipv6Groups : Option (List UInt16) :=
  if text.length < 2 then none
  else
    match cutCompression text with
    | none => do
      let head ← parseIpv6Part text true
      if head.length ≠ 8 then none else some head
    | some (headPart, tailPart) =>
      if (cutCompression tailPart).isSome then none
      else do
        let head ← parseIpv6Part headPart false
        let tail ← parseIpv6Part tailPart true
        -- the gap stands for at least one zero group
        if head.length + tail.length > 7 then none
        else some (head ++ List.replicate (8 - head.length - tail.length) 0 ++ tail)

/-! ### The target grammar -/

structure GatewayConnect where
  host : List UInt8
  port : UInt16
  profile : List UInt8 := []
  deriving Repr, Inhabited, DecidableEq

def maxGatewayHostBytes : Nat := 253
def maxGatewayProfileBytes : Nat := 64

def validLdhLabel (label : List UInt8) : Bool :=
  if label.isEmpty || label.length > 63 then false
  else if label.head? == some hyphen || label.getLast? == some hyphen then false
  else label.all fun byte => isLower byte || isUpper byte || isDigit byte || byte == hyphen

def validGatewayHost (host : List UInt8) : Bool :=
  if host.isEmpty || host.length > maxGatewayHostBytes then false
  else if !host.all fun byte => 0x21 ≤ byte && byte ≤ 0x7e then false
  else if host.contains colon then (ipv6Groups host).isSome
  else if host.head? == some dot || host.getLast? == some dot then false
  else if host.all fun byte => isDigit byte || byte == dot then (ipv4Octets host).isSome
  else (host.splitOn dot).all validLdhLabel

def safeGatewayProfileName (name : List UInt8) : Bool :=
  if name.isEmpty || name.length > maxGatewayProfileBytes then false
  else name.all fun byte =>
    isLower byte || isDigit byte || byte == underscore || byte == dot || byte == hyphen

def validateGatewayConnect (connect : GatewayConnect) : Except Error Unit :=
  if !validGatewayHost connect.host then .error (gatewayError .permission "gateway_host_invalid")
  else if connect.port = 0 then .error (gatewayError .permission "gateway_port_invalid")
  else if !connect.profile.isEmpty && !safeGatewayProfileName connect.profile then
    .error (gatewayError .permission "gateway_profile_invalid")
  else .ok ()

/-! ### Addresses and ranges -/

/-- An IPv4 address has its octets in the first four bytes. -/
structure GatewayIp where
  bytes : Vector UInt8 16
  v4 : Bool := true
  deriving Repr, DecidableEq

def parseGatewayIp (literal : List UInt8) : Option GatewayIp :=
  if !literal.contains colon then
    (ipv4Octets literal).map fun octets =>
      { bytes := .ofFn fun index => octets.getD index.val 0, v4 := true }
  else
    (ipv6Groups literal).map fun groups =>
      { bytes := .ofFn fun index =>
          let value : UInt16 := groups.getD (index.val / 2) 0
          if index.val % 2 = 0 then (value >>> 8).toUInt8 else value.toUInt8
        v4 := false }

structure GatewayCidr where
  address : GatewayIp
  prefixBits : Int
  deriving Repr, DecidableEq

/-- The address before the first slash, and the number behind it. -/
def parseGatewayCidr : Option GatewayCidr :=
  if !text.contains slash then none
  else do
    let address ← parseGatewayIp (text.takeWhile (· != slash))
    let bitsText := (text.dropWhile (· != slash)).tail
    if bitsText.isEmpty || bitsText.length > 3 then none
    else
      let bits ← decimal? bitsText
      if bits > (if address.v4 then 32 else 128) then none
      else some { address := address, prefixBits := bits }

/-- A bit of an address, from the top; those beyond its width are zero. -/
def GatewayIp.bitAt (value : GatewayIp) (width bit : Nat) : UInt8 :=
  if bit ≥ width * 8 then 0
  else (value.bytes.toList.getD (bit / 8) 0 >>> UInt8.ofNat (7 - bit % 8)) &&& 1

def gatewayCidrContains (cidr : GatewayCidr) (address : GatewayIp) : Bool :=
  if cidr.address.v4 != address.v4 then false
  else
    let width := if cidr.address.v4 then 4 else 16
    (List.range cidr.prefixBits.toNat).all fun bit =>
      cidr.address.bitAt width bit == address.bitAt width bit

def gatewayCidrIsCatchAll (cidr : GatewayCidr) : Bool :=
  cidr.prefixBits == 0

def builtinGatewayDenyRanges : List (List UInt8) :=
  [asciiBytes "0.0.0.0/8", asciiBytes "127.0.0.0/8", asciiBytes "169.254.0.0/16",
    asciiBytes "224.0.0.0/4", asciiBytes "255.255.255.255/32", asciiBytes "100.64.0.0/10",
    asciiBytes "::/128", asciiBytes "::1/128", asciiBytes "fe80::/10", asciiBytes "ff00::/8",
    asciiBytes "::ffff:0:0/96"]

/-! ### Profiles -/

/-- Inclusive bounds of a TCP port. -/
structure GatewayPortRange where
  low : UInt16 := 1
  high : UInt16 := 65535
  deriving Repr, DecidableEq

def maxGatewayProfilesPerEndpointHard : Nat := 64
def hardMaxConcurrentGatewayStreams : Nat := 64
def maxGatewayProfileBytesHard : Nat := 1024 * 1024 * 1024 * 1024
def maxGatewayProfileBytesPerSecondHard : Nat := 256 * 1024 * 1024
def maxGatewayStreamIdleTimeout : Int := 3600000
def maxGatewayStreamDuration : Int := 86400000
def maxGatewayDialDeadline : Int := 30000

/-- The part of a profile that validation and admission read; times in milliseconds. -/
structure GatewayProfileConfig where
  name : List UInt8
  allowedCidrs : List GatewayCidr
  deniedCidrs : List GatewayCidr := []
  allowedPorts : List GatewayPortRange
  allowInternet : Bool := false
  maxConcurrentStreamsPerSession : Nat := 8
  maxConcurrentStreamsPerProfile : Nat := 16
  maxProfileBytes : UInt64 := 2 * 1024 * 1024 * 1024
  maxProfileBytesPerSecond : UInt64 := 16 * 1024 * 1024
  streamIdleTimeout : Int := 300000
  streamMaxDuration : Int := 3600000
  dialDeadline : Int := 10000
  deriving Repr, DecidableEq

namespace GatewayProfileConfig

variable (profile : GatewayProfileConfig)

def concurrencyInvalid : Bool :=
  profile.maxConcurrentStreamsPerSession == 0 ||
    profile.maxConcurrentStreamsPerSession > hardMaxConcurrentGatewayStreams ||
    profile.maxConcurrentStreamsPerProfile == 0 ||
    profile.maxConcurrentStreamsPerProfile > hardMaxConcurrentGatewayStreams

def quotaInvalid : Bool :=
  profile.maxProfileBytes == 0 || profile.maxProfileBytes.toNat > maxGatewayProfileBytesHard ||
    profile.maxProfileBytesPerSecond == 0 ||
    profile.maxProfileBytesPerSecond.toNat > maxGatewayProfileBytesPerSecondHard

def timeoutInvalid : Bool :=
  profile.streamIdleTimeout < 1000 || profile.streamIdleTimeout > maxGatewayStreamIdleTimeout ||
    profile.streamMaxDuration < 1000 || profile.streamMaxDuration > maxGatewayStreamDuration ||
    profile.dialDeadline < 1000 || profile.dialDeadline > maxGatewayDialDeadline

end GatewayProfileConfig

def validateGatewayProfile (profile : GatewayProfileConfig) : Except Error Unit :=
  if !safeGatewayProfileName profile.name then
    .error (gatewayError .configuration "gateway_profile_name_invalid")
  else if profile.allowedCidrs.isEmpty then
    .error (gatewayError .configuration "gateway_profile_targets_empty")
  else if profile.allowedCidrs.any gatewayCidrIsCatchAll && !profile.allowInternet then
    .error (gatewayError .configuration "gateway_profile_catch_all_without_internet")
  else if profile.allowedPorts.any fun range => range.low == 0 || range.low > range.high then
    .error (gatewayError .configuration "gateway_profile_ports_invalid")
  else if profile.concurrencyInvalid then
    .error (gatewayError .configuration "gateway_profile_concurrency_invalid")
  else if profile.quotaInvalid then
    .error (gatewayError .configuration "gateway_profile_quota_invalid")
  else if profile.timeoutInvalid then
    .error (gatewayError .configuration "gateway_profile_timeout_invalid")
  else .ok ()

/-- The profiles one by one; the first that is invalid is reported. -/
def validateEachGatewayProfile : List GatewayProfileConfig → Except Error Unit
  | [] => .ok ()
  | profile :: rest =>
    match validateGatewayProfile profile with
    | .error error => .error error
    | .ok () => validateEachGatewayProfile rest

/-- Whether some profile has the name of one behind it. -/
def hasDuplicateName : List GatewayProfileConfig → Bool
  | [] => false
  | profile :: rest => rest.any (fun other => profile.name == other.name) || hasDuplicateName rest

variable (profiles : List GatewayProfileConfig)

def validateGatewayProfiles : Except Error Unit :=
  if profiles.length > maxGatewayProfilesPerEndpointHard then
    .error (gatewayError .configuration "gateway_profile_count_invalid")
  else
    match validateEachGatewayProfile profiles with
    | .error error => .error error
    | .ok () =>
      if hasDuplicateName profiles then
        .error (gatewayError .configuration "gateway_profile_name_duplicate")
      else .ok ()

def resolveGatewayProfile (name : List UInt8) : Option GatewayProfileConfig :=
  if name.isEmpty then
    match profiles with
    | [profile] => some profile
    | _ => none
  else profiles.find? fun candidate => candidate.name == name

/-! ### Admission -/

structure GatewayAdmissionContext where
  streamsActiveSession : Nat := 0
  streamsActiveProfile : Nat := 0
  profileBytesUsed : UInt64 := 0
  deriving Repr, DecidableEq

structure GatewayAdmission where
  allowed : Bool := false
  refusal : GatewayRefusal := .policyDenied
  profile : Option GatewayProfileConfig := none
  dialAddresses : List GatewayIp := []
  deriving Repr, DecidableEq

def cidrListContains (ranges : List GatewayCidr) (address : GatewayIp) : Bool :=
  ranges.any fun cidr => gatewayCidrContains cidr address

/-- A text that is not a range denies nothing. -/
def builtinDenies (address : GatewayIp) : Bool :=
  builtinGatewayDenyRanges.any fun range =>
    match parseGatewayCidr range with
    | some cidr => gatewayCidrContains cidr address
    | none => false

/-- The loop over the resolved addresses. -/
def dialableAddresses (profile : GatewayProfileConfig) : List GatewayIp → List GatewayIp
  | [] => []
  | address :: rest =>
    if builtinDenies address || cidrListContains profile.deniedCidrs address then
      dialableAddresses profile rest
    else if cidrListContains profile.allowedCidrs address then
      address :: dialableAddresses profile rest
    else dialableAddresses profile rest

def admitGatewayConnection (connect : GatewayConnect) (resolved : List GatewayIp)
    (context : GatewayAdmissionContext) : GatewayAdmission :=
  match resolveGatewayProfile profiles connect.profile with
  | none =>
    { refusal := if connect.profile.isEmpty then .notEnabled else .policyDenied }
  | some profile =>
    let portAllowed := profile.allowedPorts.any fun range =>
      connect.port ≥ range.low && connect.port ≤ range.high
    if !portAllowed then { refusal := .policyDenied }
    else
      let dialAddresses := dialableAddresses profile resolved
      if dialAddresses.isEmpty then { refusal := .policyDenied }
      else if context.streamsActiveSession ≥ profile.maxConcurrentStreamsPerSession ∨
          context.streamsActiveProfile ≥ profile.maxConcurrentStreamsPerProfile then
        { refusal := .quotaExhausted }
      else if context.profileBytesUsed ≥ profile.maxProfileBytes then
        { refusal := .quotaExhausted }
      else { allowed := true, profile := some profile, dialAddresses := dialAddresses }

end Heyaki
