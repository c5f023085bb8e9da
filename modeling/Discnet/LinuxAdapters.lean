import Discnet.HexString
import Discnet.Network.ClientLaws

/-!
# The adapters of a Linux host

The interfaces are listed once, and what else there is to know of each is
requested afterwards. Every answer is written into a union behind the name of
the interface, over the one before. The flags and the MTU are read at the front
of the list, whichever interface they were requested for.
-/

namespace Discnet

open Lib Network

namespace Linux

-- ---------------------------------------------------------------------------
-- The kernel
-- ---------------------------------------------------------------------------

/-- What the kernel knows of an interface. A request that fails has no answer. -/
structure Kernel where
  flags : String → Option UInt16
  mtu : String → Option Int32
  index : String → Option Int32
  hardwareAddress : String → Option (UInt16 × { data : List Byte // data.length = 14 })
  address : String → Option Address
  netmask : String → Option Address

inductive Request
  | flags
  | mtu
  | index
  | hardwareAddress
  | address
  | netmask
  deriving DecidableEq, Repr

def addressFamily : UInt16 := 2

/-- The bytes of a `sockaddr_in`, without a port. -/
def sockaddrIn (address : Address) : List Byte :=
  Word.toBytes addressFamily ++ [0, 0] ++ Word.toBigEndian address.toUInt ++ List.replicate 8 0

/-- What is written into the union. -/
def Kernel.answer (kernel : Kernel) (name : String) : Request → Option (List Byte)
  | .flags => (kernel.flags name).map Word.toBytes
  | .mtu => (kernel.mtu name).map Word.toBytes
  | .index => (kernel.index name).map Word.toBytes
  | .hardwareAddress => (kernel.hardwareAddress name).map fun (family, data) =>
    Word.toBytes family ++ data.val
  | .address => (kernel.address name).map sockaddrIn
  | .netmask => (kernel.netmask name).map sockaddrIn

-- ---------------------------------------------------------------------------
-- The fetcher
-- ---------------------------------------------------------------------------

/-- An entry of the list of interfaces: a name and a union. -/
structure Ifreq where
  name : String
  data : List Byte
  deriving DecidableEq, Repr

/-- A request for an interface, and whether it was answered. -/
def ioctl (kernel : Kernel) (request : Request) (i : Nat) (ifr : List Ifreq) : List Ifreq × Bool :=
  match ifr[i]? with
  | none => (ifr, false)
  | some entry =>
    match kernel.answer entry.name request with
    | none => (ifr, false)
    | some bytes =>
      (ifr.set i { entry with data := bytes ++ entry.data.drop bytes.length }, true)

/-- Bytes of the union of an entry. -/
def bytesAt (offset n i : Nat) (ifr : List Ifreq) : List Byte :=
  match ifr[i]? with
  | none => []
  | some entry => (entry.data.drop offset).take n

def formatMac (mac : List Byte) : String :=
  String.ofList ([':'].intercalate (mac.map fun byte => formatHex 2 byte.toNat))

def loopbackFlag : UInt16 := 8
def upFlag : UInt16 := 1
def runningFlag : UInt16 := 64

def getAdapter (kernel : Kernel) (i : Nat) (ifr : List Ifreq) : List Ifreq × Adapter :=
  let name := (ifr[i]?.map Ifreq.name).getD ""
  let (ifr, flagsResult) := ioctl kernel .flags i ifr
  -- read at the front, not at the entry of the interface
  let flags : UInt16 := Word.ofBytes (bytesAt 0 2 0 ifr)
  let loopback := flagsResult && flags &&& loopbackFlag != 0
  let enabled := flagsResult && (flags &&& upFlag != 0 && flags &&& runningFlag != 0)
  let (ifr, mtuResult) := ioctl kernel .mtu i ifr
  let mtu : Int32 := if mtuResult then Word.ofBytes (bytesAt 0 4 0 ifr) else 0
  let mtu := if mtu < 500 then 1500 else mtu
  let (ifr, indexResult) := ioctl kernel .index i ifr
  let index : Int32 := if indexResult then Word.ofBytes (bytesAt 0 4 i ifr) else -1
  let (ifr, macResult) := ioctl kernel .hardwareAddress i ifr
  let macAddress := if macResult then formatMac (bytesAt 2 6 i ifr) else ""
  let (ifr, addressResult) := ioctl kernel .address i ifr
  let address : UInt32 :=
    if addressResult then networkToNative (Word.ofBytes (bytesAt 4 4 i ifr)) else 0
  let (ifr, maskResult) := ioctl kernel .netmask i ifr
  let mask : UInt32 := if maskResult then networkToNative (Word.ofBytes (bytesAt 4 4 i ifr)) else 0
  (ifr, {
    name
    index := index.toUInt32.toUInt8
    macAddress
    addressList := [(⟨address⟩, ⟨mask⟩)]
    loopback
    enabled := enabled || true
    mtu := mtu.toUInt32 })

/-- There are no adapters where the interfaces cannot be listed. -/
def getAdapters (kernel : Kernel) (interfaces : Option (List Ifreq)) : List Adapter :=
  match interfaces with
  | none => []
  | some ifr =>
    ((List.range ifr.length).foldl (fun (ifr, result) i =>
      let (ifr, adapter) := getAdapter kernel i ifr
      (ifr, result ++ [adapter])) (ifr, [])).2

-- ---------------------------------------------------------------------------
-- Requests
-- ---------------------------------------------------------------------------

variable {kernel : Kernel} {ifr : List Ifreq} {entry : Ifreq} {i : Nat}

/-- An entry after a request. -/
def Ifreq.answered (kernel : Kernel) (request : Request) (entry : Ifreq) : Ifreq :=
  match kernel.answer entry.name request with
  | none => entry
  | some bytes => { entry with data := bytes ++ entry.data.drop bytes.length }

@[simp] theorem Ifreq.name_answered (request : Request) :
    (entry.answered kernel request).name = entry.name := by
  rw [answered]
  split <;> rfl

/-- A request changes the entry of its interface only. -/
theorem ioctl_set (hi : i < ifr.length) (request : Request) :
    ioctl kernel request i (ifr.set i entry) =
      (ifr.set i (entry.answered kernel request),
        (kernel.answer entry.name request).isSome) := by
  simp only [ioctl, List.getElem?_set_self hi, Ifreq.answered]
  cases kernel.answer entry.name request <;> simp

theorem bytesAt_self (hi : i < ifr.length) (offset n : Nat) :
    bytesAt offset n i (ifr.set i entry) = (entry.data.drop offset).take n := by
  rw [bytesAt, List.getElem?_set_self hi]

theorem bytesAt_of_ne (hi : i ≠ 0) (offset n : Nat) :
    bytesAt offset n 0 (ifr.set i entry) = bytesAt offset n 0 ifr := by
  rw [bytesAt, List.getElem?_set_ne hi]
  rfl

/-- What was answered is what is read. -/
theorem data_answered {request : Request} {bytes : List Byte}
    (h : kernel.answer entry.name request = some bytes) (offset n : Nat)
    (hn : offset + n ≤ bytes.length) :
    ((entry.answered kernel request).data.drop offset).take n = (bytes.drop offset).take n := by
  simp only [Ifreq.answered, h]
  rw [List.drop_append_of_le_length (by omega), List.take_append_of_le_length (by simp; omega)]

/-- Where the answer is read from the entry it was written to, what is read is
what the kernel knows. -/
theorem read_answered {α β : Type} {request : Request} {known : Option β}
    {encode : β → List Byte} (decode : List Byte → α) (meaning : β → α) {offset n : Nat} {d : α}
    (h : kernel.answer entry.name request = known.map encode)
    (hlength : ∀ v, offset + n ≤ (encode v).length)
    (hdecode : ∀ v, decode (((encode v).drop offset).take n) = meaning v) :
    (if (kernel.answer entry.name request).isSome then
      decode (((entry.answered kernel request).data.drop offset).take n) else d) =
      (known.map meaning).getD d := by
  cases known with
  | none => simp [h]
  | some v =>
    rw [if_pos (by simp [h]), data_answered h offset n (hlength v), hdecode]
    rfl

theorem take_toBytes {α : Type} [Word α] (v : α) :
    ((Word.toBytes v).drop 0).take (Word.size α) = Word.toBytes v := by
  rw [List.drop_zero, List.take_of_length_le (Nat.le_of_eq (Word.length_toBytes v))]

theorem networkToNative_sockaddrIn (address : Address) :
    networkToNative (Word.ofBytes (((sockaddrIn address).drop 4).take 4) : UInt32) =
      address.toUInt := by
  have h : ((sockaddrIn address).drop 4).take 4 = Word.toBigEndian address.toUInt := by
    have hlength : (Word.toBytes addressFamily ++ [0, 0] : List Byte).length = 4 := rfl
    rw [sockaddrIn, List.append_assoc, List.drop_left' hlength, List.take_left' (by simp)]
  rw [h, networkToNative_ofBytes (by simp), Word.ofBigEndian_toBigEndian]

variable {name : String}

theorem read_index (hname : entry.name = name) :
    (if (kernel.answer name .index).isSome then
      (Word.ofBytes (((entry.answered kernel .index).data.drop 0).take 4) : Int32) else -1) =
      (kernel.index name).getD (-1) := by
  subst hname
  have hindex : kernel.answer entry.name .index = (kernel.index entry.name).map Word.toBytes := rfl
  have hvalue (v : Int32) : (Word.ofBytes (((Word.toBytes v).drop 0).take 4) : Int32) = id v :=
    (congrArg Word.ofBytes (take_toBytes v)).trans (Word.ofBytes_toBytes v)
  rw [read_answered Word.ofBytes id hindex (fun v => by simp; decide) hvalue, Option.map_id_fun]
  rfl

theorem read_hardwareAddress (hname : entry.name = name) :
    (if (kernel.answer name .hardwareAddress).isSome then
      formatMac (((entry.answered kernel .hardwareAddress).data.drop 2).take 6) else "") =
      ((kernel.hardwareAddress name).map fun (_, data) => formatMac (data.val.take 6)).getD "" := by
  subst hname
  refine read_answered formatMac _ rfl (fun (family, data) => ?_) fun (family, data) => ?_
  · simp [data.property]
  · rw [List.drop_left' (by simp)]

theorem read_address (hname : entry.name = name) {request : Request} {known : Option Address}
    (h : kernel.answer name request = known.map sockaddrIn) :
    (if (kernel.answer name request).isSome then networkToNative
      (Word.ofBytes (((entry.answered kernel request).data.drop 4).take 4) : UInt32) else 0) =
      (known.getD ⟨0⟩).toUInt := by
  subst hname
  rw [read_answered (fun bytes => networkToNative (Word.ofBytes bytes : UInt32)) Address.toUInt h
    (fun v => by simp [sockaddrIn]) networkToNative_sockaddrIn]
  cases known <;> rfl

-- ---------------------------------------------------------------------------
-- One interface
-- ---------------------------------------------------------------------------

/-- An MTU that is too small, or that is not known, is replaced. -/
def acceptedMtu (mtu : Option Int32) : UInt32 :=
  (if mtu.getD 0 < 500 then 1500 else mtu.getD 0).toUInt32

/-- What is built of an interface where these flags and this MTU are read. -/
def Kernel.adapter (kernel : Kernel) (name : String) (flags : Option UInt16) (mtu : Option Int32) :
    Adapter where
  name
  index := ((kernel.index name).getD (-1)).toUInt32.toUInt8
  macAddress := ((kernel.hardwareAddress name).map fun (_, data) =>
    formatMac (data.val.take 6)).getD ""
  addressList := [((kernel.address name).getD ⟨0⟩, (kernel.netmask name).getD ⟨0⟩)]
  loopback := flags.any (· &&& loopbackFlag != 0)
  enabled := true
  mtu := acceptedMtu mtu

/-- An entry after all that is requested of it. -/
def Ifreq.fetched (kernel : Kernel) (entry : Ifreq) : Ifreq :=
  [Request.flags, .mtu, .index, .hardwareAddress, .address, .netmask].foldl
    (fun entry request => entry.answered kernel request) entry

/-- The flags that are looked at after they were requested. -/
def flagsRead (kernel : Kernel) (i : Nat) (entry : Ifreq) (ifr : List Ifreq) : UInt16 :=
  Word.ofBytes (bytesAt 0 2 0 (ifr.set i (entry.answered kernel .flags)))

def mtuRead (kernel : Kernel) (i : Nat) (entry : Ifreq) (ifr : List Ifreq) : Int32 :=
  Word.ofBytes
    (bytesAt 0 4 0 (ifr.set i ((entry.answered kernel .flags).answered kernel .mtu)))

/-- An interface is asked six times, and all but the flags and the MTU are read
from the answers. -/
theorem getAdapter_eq (h : ifr[i]? = some entry) :
    getAdapter kernel i ifr = (ifr.set i (entry.fetched kernel),
      kernel.adapter entry.name
        ((kernel.flags entry.name).map fun _ => flagsRead kernel i entry ifr)
        ((kernel.mtu entry.name).map fun _ => mtuRead kernel i entry ifr)) := by
  obtain ⟨hi, hentry⟩ := List.getElem?_eq_some_iff.mp h
  have hflags : ioctl kernel .flags i ifr = (ifr.set i (entry.answered kernel .flags),
      (kernel.answer entry.name .flags).isSome) := by
    have hset : ifr.set i entry = ifr := by rw [← hentry, List.set_getElem_self]
    have hsent : ioctl kernel .flags i (ifr.set i entry) = _ := ioctl_set hi .flags
    rwa [hset] at hsent
  have hsome : (kernel.answer entry.name .flags).isSome = (kernel.flags entry.name).isSome :=
    Option.isSome_map
  have hmtu : (kernel.answer entry.name .mtu).isSome = (kernel.mtu entry.name).isSome :=
    Option.isSome_map
  have haddress {name : String} : kernel.answer name .address =
      (kernel.address name).map sockaddrIn := rfl
  have hnetmask {name : String} : kernel.answer name .netmask =
      (kernel.netmask name).map sockaddrIn := rfl
  simp only [getAdapter, h, hflags, ioctl_set hi, Ifreq.name_answered, bytesAt_self hi, read_index,
    read_hardwareAddress, read_address _ haddress, read_address _ hnetmask, hsome, hmtu,
    Option.map_some, Option.getD_some, Bool.or_true]
  refine Prod.ext rfl ?_
  rw [Kernel.adapter]
  cases kernel.flags entry.name <;> cases kernel.mtu entry.name <;> rfl

-- ---------------------------------------------------------------------------
-- The list of interfaces
-- ---------------------------------------------------------------------------

/-- What is at the front of the list looks like the beginning of an address. -/
def Overwritten (ifr : List Ifreq) : Prop := bytesAt 0 4 0 ifr = [2, 0, 0, 0]

theorem Overwritten.bytesAt_two (h : Overwritten ifr) : bytesAt 0 2 0 ifr = [2, 0] := by
  have htake : bytesAt 0 2 0 ifr = (bytesAt 0 4 0 ifr).take 2 := by
    rw [bytesAt, bytesAt]
    cases ifr[0]? with
    | none => rfl
    | some entry => simp only [List.take_take]; rfl
  rw [htake, h]
  rfl

theorem Overwritten.set (h : Overwritten ifr) (hi : i ≠ 0) : Overwritten (ifr.set i entry) := by
  rw [Overwritten, bytesAt_of_ne hi]
  exact h

theorem Overwritten.append (h : Overwritten ifr) (rest : List Ifreq) :
    Overwritten (ifr ++ rest) := by
  cases ifr with
  | nil => cases h
  | cons first ifr => exact h

/-- At the front, what was requested is read. -/
theorem getAdapter_front (first : Ifreq) (rest : List Ifreq) :
    getAdapter kernel 0 (first :: rest) = (first.fetched kernel :: rest,
      kernel.adapter first.name (kernel.flags first.name) (kernel.mtu first.name)) := by
  have hflags : (kernel.flags first.name).map (fun _ => flagsRead kernel 0 first (first :: rest)) =
      kernel.flags first.name := by
    cases h : kernel.flags first.name with
    | none => rfl
    | some flags =>
      have hanswer : kernel.answer first.name .flags = some (Word.toBytes flags) := by
        rw [Kernel.answer, h]
        rfl
      rw [Option.map_some, flagsRead, bytesAt_self (by simp), data_answered hanswer 0 2 (by simp)]
      exact congrArg some
        ((congrArg Word.ofBytes (take_toBytes flags)).trans (Word.ofBytes_toBytes flags))
  have hmtu : (kernel.mtu first.name).map (fun _ => mtuRead kernel 0 first (first :: rest)) =
      kernel.mtu first.name := by
    cases h : kernel.mtu first.name with
    | none => rfl
    | some mtu =>
      have hanswer : kernel.answer (first.answered kernel .flags).name .mtu =
          some (Word.toBytes mtu) := by
        rw [Kernel.answer, Ifreq.name_answered, h]
        rfl
      rw [Option.map_some, mtuRead, bytesAt_self (by simp),
        data_answered hanswer 0 4 (by simp; decide)]
      exact congrArg some
        ((congrArg Word.ofBytes (take_toBytes mtu)).trans (Word.ofBytes_toBytes mtu))
  rw [getAdapter_eq (show (first :: rest)[0]? = some first from rfl), hflags, hmtu]
  rfl

/-- What is built of an interface behind the front, with the family of the
address that is at the front for its flags and its MTU. -/
def Kernel.adapterBehind (kernel : Kernel) (entry : Ifreq) : Adapter :=
  kernel.adapter entry.name ((kernel.flags entry.name).map fun _ => 2)
    ((kernel.mtu entry.name).map fun _ => 2)

theorem getAdapter_behind (hfront : Overwritten ifr) (hi : i ≠ 0) (h : ifr[i]? = some entry) :
    getAdapter kernel i ifr =
      (ifr.set i (entry.fetched kernel), kernel.adapterBehind entry) := by
  have hflags : flagsRead kernel i entry ifr = 2 := by
    rw [flagsRead, (hfront.set hi).bytesAt_two]
    rfl
  have hmtu : mtuRead kernel i entry ifr = 2 := by
    rw [mtuRead, hfront.set hi]
    rfl
  rw [getAdapter_eq h, hflags, hmtu, Kernel.adapterBehind]

/-- An address that was answered is in front of what it was written over. -/
theorem overwritten_answered {request : Request} (known : Option Address) {rest : List Ifreq}
    (h : kernel.answer entry.name request = known.map sockaddrIn)
    (hfront : known.isSome ∨ Overwritten (entry :: rest)) :
    Overwritten (entry.answered kernel request :: rest) := by
  cases known with
  | none =>
    have hsame : entry.answered kernel request = entry := by simp [Ifreq.answered, h]
    rw [hsame]
    exact hfront.resolve_left (by simp)
  | some address =>
    exact (data_answered h 0 4 (by simp [sockaddrIn])).trans rfl

theorem overwritten_fetched {first : Ifreq}
    (h : (kernel.address first.name).isSome ∨ (kernel.netmask first.name).isSome)
    (rest : List Ifreq) : Overwritten (first.fetched kernel :: rest) := by
  refine overwritten_answered (kernel.netmask first.name) (by simp; rfl) ?_
  rcases h with haddress | hnetmask
  · exact .inr (overwritten_answered (kernel.address first.name) (by simp; rfl) (.inl haddress))
  · exact .inl hnetmask

/-- The loop behind the front: the entries in `done` were fetched before. -/
theorem fetch_behind (kernel : Kernel) {done : List Ifreq} (rest : List Ifreq)
    (result : List Adapter) (hfront : Overwritten done) :
    ((List.range' done.length rest.length).foldl (fun (ifr, result) i =>
      let (ifr, adapter) := getAdapter kernel i ifr
      (ifr, result ++ [adapter])) (done ++ rest, result)).2 =
      result ++ rest.map kernel.adapterBehind := by
  induction rest generalizing done result with
  | nil => simp
  | cons entry rest ih =>
    have hne : done.length ≠ 0 := by
      rintro hlength
      rw [List.eq_nil_of_length_eq_zero hlength] at hfront
      cases hfront
    have hentry : (done ++ entry :: rest)[done.length]? = some entry := by simp
    have hset : (done ++ entry :: rest).set done.length (entry.fetched kernel) =
        (done ++ [entry.fetched kernel]) ++ rest := by simp
    have hstep : getAdapter kernel done.length (done ++ entry :: rest) = _ :=
      getAdapter_behind (hfront.append (entry :: rest)) hne hentry
    have hnext := ih (result ++ [kernel.adapterBehind entry])
      (hfront.append [entry.fetched kernel])
    rw [List.length_append] at hnext
    simpa [List.range'_succ, hstep, hset] using hnext

theorem adapterBehind_eq (entry : Ifreq) :
    (kernel.adapterBehind entry).loopback = false ∧ (kernel.adapterBehind entry).mtu = 1500 := by
  have hloopback : ((kernel.flags entry.name).map fun _ => (2 : UInt16)).any
      (· &&& loopbackFlag != 0) = false := by
    cases kernel.flags entry.name with
    | none => rfl
    | some flags =>
      rw [Option.map_some, Option.any_some]
      decide
  have hmtu : acceptedMtu ((kernel.mtu entry.name).map fun _ => 2) = 1500 := by
    cases kernel.mtu entry.name with
    | none => decide
    | some mtu => exact (by decide : acceptedMtu (some 2) = 1500)
  exact ⟨hloopback, hmtu⟩

/-- Only of the first interface are the flags and the MTU known. Every other one
is an adapter that is not the loopback and has an MTU of 1500, and a client is
to listen on it, whatever the kernel knows. -/
theorem getAdapters_cons (first : Ifreq) (rest : List Ifreq)
    (h : (kernel.address first.name).isSome ∨ (kernel.netmask first.name).isSome) :
    getAdapters kernel (some (first :: rest)) =
        kernel.adapter first.name (kernel.flags first.name) (kernel.mtu first.name) ::
          rest.map kernel.adapterBehind ∧
      (∀ adapter ∈ (getAdapters kernel (some (first :: rest))).tail,
        adapter.loopback = false ∧ adapter.mtu = 1500) ∧
      (getAdapters kernel (some (first :: rest))).tail.flatMap Adapter.listenAddresses =
        rest.map fun entry => (kernel.address entry.name).getD ⟨0⟩ := by
  have hadapters : getAdapters kernel (some (first :: rest)) =
      kernel.adapter first.name (kernel.flags first.name) (kernel.mtu first.name) ::
        rest.map kernel.adapterBehind := by
    have hbehind := fetch_behind kernel rest
      [kernel.adapter first.name (kernel.flags first.name) (kernel.mtu first.name)]
      (overwritten_fetched h [])
    simp only [getAdapters, List.length_cons, List.range_eq_range', List.range'_succ,
      List.foldl_cons, getAdapter_front]
    exact hbehind
  have htail : (getAdapters kernel (some (first :: rest))).tail =
      rest.map kernel.adapterBehind := by
    rw [hadapters, List.tail_cons]
  refine ⟨hadapters, fun adapter hadapter => ?_, ?_⟩
  · rw [htail] at hadapter
    obtain ⟨entry, -, rfl⟩ := List.mem_map.mp hadapter
    exact adapterBehind_eq entry
  · have hlisten (entry : Ifreq) : (kernel.adapterBehind entry).listenAddresses =
        [(kernel.address entry.name).getD ⟨0⟩] := by
      rw [Adapter.listenAddresses, (adapterBehind_eq entry).1]
      simp [Kernel.adapterBehind, Kernel.adapter]
    rw [htail, List.flatMap_map]
    simp only [hlisten]
    exact List.flatMap_pure_eq_map _ rest

/-- A host with a network card in front of its loopback. -/
def twoInterfaces : Kernel where
  flags name := some (if name = "lo" then 73 else 4163)
  mtu name := some (if name = "lo" then 65536 else 9000)
  index name := some (if name = "lo" then 1 else 2)
  hardwareAddress name :=
    some (if name = "lo" then 772 else 1, ⟨List.replicate 14 0, rfl⟩)
  address name := some (if name = "lo" then ⟨0x7f000001⟩ else ⟨0xc0a80a0a⟩)
  netmask name := some (if name = "lo" then ⟨0xff000000⟩ else ⟨0xffffff00⟩)

/-- A client listens on the loopback of the host. -/
theorem getAdapters_twoInterfaces :
    (getAdapters twoInterfaces (some [⟨"eth0", []⟩, ⟨"lo", []⟩])).tail.flatMap
      Adapter.listenAddresses = [⟨0x7f000001⟩] :=
  (getAdapters_cons ⟨"eth0", []⟩ [⟨"lo", []⟩] (.inl rfl)).2.2

/-- A host with two network cards, of which the first has two addresses. -/
def twoCards : Kernel where
  flags _ := some 4163
  mtu _ := some 1500
  index name := some (if name = "eth1" then 3 else 2)
  hardwareAddress name :=
    some (1, ⟨[2, 0, 0, 0, 0, if name = "eth1" then 2 else 1] ++ List.replicate 8 0, rfl⟩)
  address name := some
    (if name = "eth1" then ⟨0x0b000001⟩ else if name = "eth0" then ⟨0x0a000001⟩ else ⟨0x0a000002⟩)
  netmask _ := some ⟨0xffffff00⟩

/-- The interfaces are listed with their addresses. -/
def Kernel.listed (kernel : Kernel) (names : List String) : List Ifreq :=
  names.map fun name => ⟨name, ((kernel.address name).map sockaddrIn).getD []⟩

end Linux

end Discnet
