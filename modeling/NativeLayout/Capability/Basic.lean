/-
# Capabilities and their overrides

What a platform is expected to have. Overrides say so for single structures, for
single headers and for all headers below a directory; a policy decides about
structures without an override. Overrides come in layers, a later layer counting
where two speak of the same thing.
-/

import NativeLayout.Dictionary

namespace NativeLayout

/-- Whether something is expected to exist. -/
inductive Capability
  | supported
  | unsupported
  /-- Nothing is recorded. -/
  | unknown
deriving DecidableEq, Repr

namespace Capability

/-- The capability that a record stands for. -/
def ofRecord : Option Bool → Capability
  | some true => supported
  | some false => unsupported
  | none => unknown

/-- The word for a capability. -/
def word : Capability → String
  | supported => "supported"
  | unsupported => "unsupported"
  | unknown => "unknown"

end Capability

/-- What to do about a structure of which nothing is recorded. -/
inductive UnknownPolicy
  /-- Compare it; if it does not exist the compile fails. -/
  | assumeSupported
  /-- Do not compare it. -/
  | skip
deriving DecidableEq, Repr

/-- The word for a policy. -/
def UnknownPolicy.word : UnknownPolicy → String
  | assumeSupported => "assume-supported"
  | skip => "skip"

/-- The policy that a word names. -/
def UnknownPolicy.parse? : String → Option UnknownPolicy
  | "assume-supported" => some assumeSupported
  | "skip" => some skip
  | _ => none

/-- One layer of overrides. -/
structure CapabilityConfig where
  unknown : Option UnknownPolicy := none
  structs : Dictionary Bool := ∅
  headers : Dictionary Bool := ∅
deriving DecidableEq

/-- One layer laid over another. -/
def CapabilityConfig.merge (base top : CapabilityConfig) : CapabilityConfig where
  unknown := top.unknown.or base.unknown
  structs := base.structs.merge top.structs
  headers := base.headers.merge top.headers

/-- The overrides in force. -/
structure Overrides where
  structs : Dictionary Bool := ∅
  headers : Dictionary Bool := ∅
  policy : UnknownPolicy := .assumeSupported
deriving DecidableEq

namespace Overrides

/-- The overrides with a structure recorded. -/
def withStruct (o : Overrides) (name : String) (supported : Bool) : Overrides :=
  { o with structs := o.structs.insert name supported }

/-- The overrides with a header, or a directory of headers, recorded. -/
def withHeader (o : Overrides) (header : String) (supported : Bool) : Overrides :=
  { o with headers := o.headers.insert header supported }

/-- The overrides under another policy. -/
def withPolicy (o : Overrides) (policy : UnknownPolicy) : Overrides := { o with policy }

/-- The overrides with a layer laid over them. -/
def apply (o : Overrides) (config : CapabilityConfig) : Overrides where
  structs := o.structs.merge config.structs
  headers := o.headers.merge config.headers
  policy := config.unknown.getD o.policy

/-- The structures that only Linux has. -/
def linuxOnly : List String :=
  ["ucred", "mmsghdr", "ip_mreqn", "file_handle", "f_owner_ex", "epoll_data_t", "epoll_event",
   "sock_extended_err", "scm_timestamping", "cpu_set_t"]

/-- The overrides of a platform other than Linux: no structure and no kernel header that
only Linux has. -/
def withoutLinux (o : Overrides) : Overrides :=
  (linuxOnly.foldl (fun o name => o.withStruct name false) o).withHeader "linux/" false

/-- What is recorded of a structure. -/
def structCapability (o : Overrides) (name : String) : Capability :=
  .ofRecord (o.structs.get? name)

/-- Whether a structure is to be compared. -/
def admits (o : Overrides) (name : String) : Bool :=
  match o.structCapability name with
  | .supported => true
  | .unsupported => false
  | .unknown => o.policy == .assumeSupported

/-- Whether a key of the header table covers a header: a key that ends in a slash covers
what begins with it. -/
def covers (key header : String) : Bool :=
  key.toList.getLast? == some '/' && key.toList.isPrefixOf header.toList

/-- Of two entries the one with the longer key, the first if they are as long. -/
def longer (a b : String × Bool) : String × Bool :=
  if a.1.utf8ByteSize < b.1.utf8ByteSize then b else a

/-- The covering entry with the longest key. -/
def directory? (header : String) (entries : List (String × Bool)) : Option (String × Bool) :=
  match entries.filter (covers ·.1 header) with
  | [] => none
  | e :: rest => some (rest.foldl longer e)

/-- What is recorded of a header: under its own name if there is such an entry, else
under the longest directory that it lies in. -/
def header? (o : Overrides) (header : String) : Option Bool :=
  (o.headers.get? header).or ((directory? header o.headers.entries).map Prod.snd)

/-- What is recorded of a header, as a capability. -/
def headerCapability (o : Overrides) (header : String) : Capability := .ofRecord (o.header? header)

end Overrides

end NativeLayout
