/-
# The Linux catalog

The socket, network, file, polling and scheduling types of 64-bit Linux, with the
headers that declare them. Layouts follow from the members by the rules of C; the
declared sizes are a table of their own, against which the layouts are checked.
-/

import NativeLayout.Catalog.Gap
import NativeLayout.Catalog.Layout

namespace NativeLayout.Linux

/-- The number type `int8_t`. -/
def int8 : NativeType := .number "int8_t" 1

/-- The number type `uint8_t`. -/
def uint8 : NativeType := .number "uint8_t" 1

/-- The number type `int16_t`. -/
def int16 : NativeType := .number "int16_t" 2

/-- The number type `uint16_t`. -/
def uint16 : NativeType := .number "uint16_t" 2

/-- The number type `int32_t`. -/
def int32 : NativeType := .number "int32_t" 4

/-- The number type `uint32_t`. -/
def uint32 : NativeType := .number "uint32_t" 4

/-- The number type `int64_t`. -/
def int64 : NativeType := .number "int64_t" 8

/-- The number type `uint64_t`. -/
def uint64 : NativeType := .number "uint64_t" 8

/-- The number type `intptr_t`. -/
def intptr : NativeType := .number "intptr_t" 8

/-- The number type `uintptr_t`. -/
def uintptr : NativeType := .number "uintptr_t" 8

/-- A pointer to anything. -/
def pointer : NativeType := .number "pointer" 8

/-- The alias `size_t`. -/
def sizeT : Binding := .scalar "size_t" uintptr

/-- The alias `ssize_t`. -/
def ssizeT : Binding := .scalar "ssize_t" intptr

/-- The alias `sa_family_t`. -/
def saFamilyT : Binding := .scalar "sa_family_t" uint16

/-- The alias `pid_t`. -/
def pidT : Binding := .scalar "pid_t" int32

/-- The alias `uid_t`. -/
def uidT : Binding := .scalar "uid_t" uint32

/-- The alias `gid_t`. -/
def gidT : Binding := .scalar "gid_t" uint32

/-- The alias `socklen_t`. -/
def socklenT : Binding := .scalar "socklen_t" uint32

/-- The alias `off_t`. -/
def offT : Binding := .scalar "off_t" int64

/-- The alias `time_t`. -/
def timeT : Binding := .scalar "time_t" int64

/-- The alias `mode_t`. -/
def modeT : Binding := .scalar "mode_t" uint32

/-- The alias `syscall_arg`. -/
def syscallArg : Binding := .scalar "syscall_arg" int64

/-- The alias `long_t`. -/
def longT : Binding := .scalar "long_t" int64

/-- The alias `aio_context_t`. -/
def aioContextT : Binding := .scalar "aio_context_t" uint64

/-- The structure `iovec`. -/
def iovec : Binding := .struct "iovec"
  [.field "iov_base" pointer,
   .field "iov_len" sizeT.type]

/-- The structure `ucred`. -/
def ucred : Binding := .struct "ucred"
  [.field "pid" pidT.type,
   .field "uid" uidT.type,
   .field "gid" gidT.type]

/-- The structure `linger`. -/
def linger : Binding := .struct "linger"
  [.field "l_onoff" int32,
   .field "l_linger" int32]

/-- The structure `sockaddr`. -/
def sockaddr : Binding := .struct "sockaddr"
  [.field "sa_family" saFamilyT.type,
   .arrayField "sa_data" int8 14]

/-- The structure `sockaddr_storage`. -/
def sockaddrStorage : Binding := .struct "sockaddr_storage"
  [.field "ss_family" saFamilyT.type,
   .hidden "__ss_padding" int8 (128 - 2 - 8),
   .hidden "__ss_align" uint64 1]

/-- The structure `cmsghdr`. -/
def cmsghdr : Binding := .struct "cmsghdr"
  [.field "cmsg_len" sizeT.type,
   .field "cmsg_level" int32,
   .field "cmsg_type" int32]

/-- The structure `msghdr`. -/
def msghdr : Binding := .struct "msghdr"
  [.field "msg_name" pointer,
   .field "msg_namelen" socklenT.type,
   .field "msg_iov" pointer,
   .field "msg_iovlen" sizeT.type,
   .field "msg_control" pointer,
   .field "msg_controllen" sizeT.type,
   .field "msg_flags" int32]

/-- The structure `mmsghdr`. -/
def mmsghdr : Binding := .struct "mmsghdr"
  [.field "msg_hdr" msghdr.type,
   .field "msg_len" uint32]

/-- The structure `in_addr`. -/
def inAddr : Binding := .struct "in_addr"
  [.field "s_addr" uint32]

/-- The structure `in6_addr`. -/
def in6Addr : Binding := .aligned 4 "in6_addr"
  [.arrayField "s6_addr" uint8 16]

/-- The structure `sockaddr_in`. -/
def sockaddrIn : Binding := .struct "sockaddr_in"
  [.field "sin_family" saFamilyT.type,
   .field "sin_port" uint16,
   .field "sin_addr" inAddr.type,
   .arrayField "sin_zero" uint8 8]

/-- The structure `sockaddr_in6`. -/
def sockaddrIn6 : Binding := .struct "sockaddr_in6"
  [.field "sin6_family" saFamilyT.type,
   .field "sin6_port" uint16,
   .field "sin6_flowinfo" uint32,
   .field "sin6_addr" in6Addr.type,
   .field "sin6_scope_id" uint32]

/-- The structure `ipv6_mreq`. -/
def ipv6Mreq : Binding := .struct "ipv6_mreq"
  [.field "ipv6mr_multiaddr" in6Addr.type,
   .field "ipv6mr_interface" uint32]

/-- The structure `ip_opts`. -/
def ipOpts : Binding := .struct "ip_opts"
  [.field "ip_dst" inAddr.type,
   .arrayField "ip_opts" int8 40]

/-- The structure `ip_mreq`. -/
def ipMreq : Binding := .struct "ip_mreq"
  [.field "imr_multiaddr" inAddr.type,
   .field "imr_interface" inAddr.type]

/-- The structure `ip_mreqn`. -/
def ipMreqn : Binding := .struct "ip_mreqn"
  [.field "imr_multiaddr" inAddr.type,
   .field "imr_address" inAddr.type,
   .field "imr_ifindex" int32]

/-- The structure `ip_mreq_source`. -/
def ipMreqSource : Binding := .struct "ip_mreq_source"
  [.field "imr_multiaddr" inAddr.type,
   .field "imr_interface" inAddr.type,
   .field "imr_sourceaddr" inAddr.type]

/-- The structure `group_req`. -/
def groupReq : Binding := .struct "group_req"
  [.field "gr_interface" uint32,
   .field "gr_group" sockaddrStorage.type]

/-- The structure `group_source_req`. -/
def groupSourceReq : Binding := .struct "group_source_req"
  [.field "gsr_interface" uint32,
   .field "gsr_group" sockaddrStorage.type,
   .field "gsr_source" sockaddrStorage.type]

/-- The structure `group_filter`. -/
def groupFilter : Binding := .struct "group_filter"
  [.field "gf_interface" uint32,
   .field "gf_group" sockaddrStorage.type,
   .field "gf_fmode" uint32,
   .field "gf_numsrc" uint32,
   .arrayField "gf_slist" sockaddrStorage.type 1]

/-- The structure `in_pktinfo`. -/
def inPktinfo : Binding := .struct "in_pktinfo"
  [.field "ipi_ifindex" int32,
   .field "ipi_spec_dst" inAddr.type,
   .field "ipi_addr" inAddr.type]

/-- The structure `in6_pktinfo`. -/
def in6Pktinfo : Binding := .struct "in6_pktinfo"
  [.field "ipi6_addr" in6Addr.type,
   .field "ipi6_ifindex" uint32]

/-- The structure `ip6_mtuinfo`. -/
def ip6Mtuinfo : Binding := .struct "ip6_mtuinfo"
  [.field "ip6m_addr" sockaddrIn6.type,
   .field "ip6m_mtu" uint32]

/-- The structure `flock`. -/
def flock : Binding := .struct "flock"
  [.field "l_type" int16,
   .field "l_whence" int16,
   .field "l_start" offT.type,
   .field "l_len" offT.type,
   .field "l_pid" pidT.type]

/-- The structure `file_handle`. -/
def fileHandle : Binding := .struct "file_handle"
  [.field "handle_bytes" uint32,
   .field "handle_type" int32]

/-- The structure `f_owner_ex`. -/
def fOwnerEx : Binding := .struct "f_owner_ex"
  [.field "r#type" int32,
   .field "pid" pidT.type]

/-- The structure `sockaddr_un`. -/
def sockaddrUn : Binding := .struct "sockaddr_un"
  [.field "sun_family" saFamilyT.type,
   .arrayField "sun_path" int8 108]

/-- The union `epoll_data_t`. -/
def epollDataT : Binding := .union "epoll_data_t"
  [.field "ptr" pointer,
   .field "fd" int32,
   .field "u32" uint32,
   .field "u64" uint64]

/-- The structure `epoll_event`. -/
def epollEvent : Binding := .packed "epoll_event"
  [.field "events" uint32,
   .field "data" epollDataT.type]

/-- The structure `sock_extended_err`. -/
def sockExtendedErr : Binding := .struct "sock_extended_err"
  [.field "ee_errno" uint32,
   .field "ee_origin" uint8,
   .field "ee_type" uint8,
   .field "ee_code" uint8,
   .field "ee_pad" uint8,
   .field "ee_info" uint32,
   .field "ee_data" uint32]

/-- The structure `timespec`. -/
def timespec : Binding := .struct "timespec"
  [.field "tv_sec" timeT.type,
   .field "tv_nsec" int64]

/-- The structure `scm_timestamping`. -/
def scmTimestamping : Binding := .struct "scm_timestamping"
  [.arrayField "ts" timespec.type 3]

/-- The structure `winsize`. -/
def winsize : Binding := .struct "winsize"
  [.field "ws_row" uint16,
   .field "ws_col" uint16,
   .field "ws_xpixel" uint16,
   .field "ws_ypixel" uint16]

/-- The structure `cpu_set_t`. -/
def cpuSetT : Binding := .struct "cpu_set_t"
  [.hidden "__bits" uint64 (1024 / 64)]

/-- The structure `io_event`. -/
def ioEvent : Binding := .struct "io_event"
  [.field "data" uint64,
   .field "obj" uint64,
   .field "res" int64,
   .field "res2" int64]

/-- The structure `iocb`. -/
def iocb : Binding := .struct "iocb"
  [.field "aio_data" uint64,
   .field "aio_key" uint32,
   .field "aio_rw_flags" uint32,
   .field "aio_lio_opcode" uint16,
   .field "aio_reqprio" int16,
   .field "aio_fildes" uint32,
   .field "aio_buf" uint64,
   .field "aio_nbytes" uint64,
   .field "aio_offset" int64,
   .field "aio_reserved2" uint64,
   .field "aio_flags" uint32,
   .field "aio_resfd" uint32]

/-- The structure `aio_ring`. -/
def aioRing : Binding := .struct "aio_ring"
  [.field "id" uint32,
   .field "nr" uint32,
   .field "head" uint32,
   .field "tail" uint32,
   .field "magic" uint32,
   .field "compat_features" uint32,
   .field "incompat_features" uint32,
   .field "header_length" uint32]

/-- All bindings, in the order of the catalog. -/
def bindings : List Binding :=
  [sizeT, ssizeT, saFamilyT, pidT, uidT, gidT, socklenT, offT, timeT, modeT, syscallArg, longT,
   aioContextT, iovec, ucred, linger, sockaddr, sockaddrStorage, cmsghdr, msghdr, mmsghdr,
   inAddr, in6Addr, sockaddrIn, sockaddrIn6, ipv6Mreq, ipOpts, ipMreq, ipMreqn, ipMreqSource,
   groupReq, groupSourceReq, groupFilter, inPktinfo, in6Pktinfo, ip6Mtuinfo, flock, fileHandle,
   fOwnerEx, sockaddrUn, epollDataT, epollEvent, sockExtendedErr, timespec, scmTimestamping,
   winsize, cpuSetT, ioEvent, iocb, aioRing]

/-- The declared sizes. -/
def declaredSizes : List (String × Nat) :=
  [("iovec", 16), ("ucred", 12), ("mmsghdr", 64), ("linger", 8), ("sockaddr", 16),
   ("sockaddr_storage", 128), ("cmsghdr", 16), ("msghdr", 56), ("in_addr", 4), ("in6_addr", 16),
   ("sockaddr_in", 16), ("sockaddr_in6", 28), ("ipv6_mreq", 20), ("ip_opts", 44),
   ("ip_mreq", 8), ("ip_mreqn", 12), ("ip_mreq_source", 12), ("group_req", 136),
   ("group_source_req", 264), ("group_filter", 272), ("in_pktinfo", 12), ("in6_pktinfo", 20),
   ("ip6_mtuinfo", 32), ("flock", 32), ("file_handle", 8), ("f_owner_ex", 8),
   ("sockaddr_un", 110), ("epoll_data_t", 8), ("epoll_event", 12), ("sock_extended_err", 16),
   ("scm_timestamping", 48), ("size_t", 8), ("ssize_t", 8), ("sa_family_t", 2), ("pid_t", 4),
   ("uid_t", 4), ("gid_t", 4), ("socklen_t", 4), ("off_t", 8), ("time_t", 8), ("timespec", 16),
   ("mode_t", 4), ("syscall_arg", 8), ("long_t", 8), ("winsize", 8), ("cpu_set_t", 128),
   ("io_event", 32), ("iocb", 64), ("aio_ring", 32), ("aio_context_t", 8)]

/-- The checks: headers and structure. -/
def checks : List (List String × String) :=
  [(["sys/uio.h"], "iovec"), (["sys/socket.h"], "ucred"), (["sys/socket.h"], "mmsghdr"),
   (["sys/socket.h"], "linger"), (["sys/socket.h"], "sockaddr"),
   (["sys/socket.h"], "sockaddr_storage"), (["sys/socket.h"], "cmsghdr"),
   (["sys/socket.h"], "msghdr"), (["netinet/in.h"], "in_addr"), (["netinet/in.h"], "in6_addr"),
   (["netinet/in.h"], "sockaddr_in"), (["netinet/in.h"], "sockaddr_in6"),
   (["netinet/in.h"], "ipv6_mreq"), (["netinet/in.h"], "ip_opts"),
   (["netinet/in.h"], "ip_mreq"), (["netinet/in.h"], "ip_mreqn"),
   (["netinet/in.h"], "ip_mreq_source"), (["netinet/in.h"], "group_req"),
   (["netinet/in.h"], "group_source_req"), (["netinet/in.h"], "group_filter"),
   (["netinet/in.h"], "in_pktinfo"), (["netinet/in.h"], "in6_pktinfo"),
   (["netinet/in.h"], "ip6_mtuinfo"), (["fcntl.h"], "flock"), (["fcntl.h"], "file_handle"),
   (["fcntl.h"], "f_owner_ex"), (["sys/un.h"], "sockaddr_un"),
   (["sys/epoll.h"], "epoll_data_t"), (["sys/epoll.h"], "epoll_event"),
   (["linux/time.h", "linux/errqueue.h"], "sock_extended_err"),
   (["linux/time.h", "linux/errqueue.h"], "scm_timestamping"), (["sys/types.h"], "size_t"),
   (["sys/types.h"], "ssize_t"), (["sys/socket.h"], "sa_family_t"), (["sys/types.h"], "pid_t"),
   (["sys/types.h"], "uid_t"), (["sys/types.h"], "gid_t"), (["sys/socket.h"], "socklen_t"),
   (["sys/types.h"], "off_t"), (["sys/time.h"], "time_t"), (["sys/time.h"], "timespec"),
   (["sys/types.h"], "mode_t"), (["sys/types.h"], "syscall_arg"), (["sys/types.h"], "long_t"),
   (["sys/ioctl.h"], "winsize"), (["sched.h"], "cpu_set_t")]

/-- The names that are aliases. -/
def typedefs : List String :=
  ["epoll_data_t", "size_t", "ssize_t", "sa_family_t", "pid_t", "uid_t", "gid_t", "socklen_t",
   "off_t", "time_t", "mode_t", "syscall_arg", "long_t", "cpu_set_t"]

/-- The fields whose width hangs on the C library. -/
def skipped : List (String × String) :=
  [("msghdr", "msg_controllen"), ("msghdr", "msg_iovlen"), ("cmsghdr", "cmsg_len")]

/-- The public types that are left unchecked. -/
def unchecked : List String :=
  ["io_event", "iocb", "aio_ring", "aio_context_t"]

/-- The catalog of 64-bit Linux. -/
def catalog : Catalog where
  name := "linux"
  definitions := bindings.map (·.definition)
  declaredSizes := .ofList declaredSizes
  checks := checks.map fun (headers, name) => ⟨name, .ofList headers⟩
  unchecked := .ofList unchecked
  typedefs := .ofList typedefs
  skipList := .ofList skipped

example : bindings.all (fun b => declaredSizes.lookup b.definition.name == some b.definition.size) =
    true := by decide +kernel

end NativeLayout.Linux
