import Megaphone.Library.Memory
import Megaphone.DataStructures.Array

/-!
The requests of `request.h` and the small functions of `request.c`: headers, the byte order of
16-bit words, and the buffers that requests are put together in and taken apart from.

* `getRqType`, `getId`, `mkHeader`: the 5 bits of the type and the 11 bits of the identifier, with
  `getRqType_mkHeader` and `getId_mkHeader`.
* `u16Bytes`, `htons`, `ntohs`: 16-bit words in the memory of a little-endian host.
* `BytesRQ`, `appendbuf`, `extractbuf`: the buffers; `BytesRQ.frame` is what `send` sends, the first
  `size` bytes, and `frame_appendbuf` says that `appendbuf` appends to it.
* `ClientRQ`, `ServerRQ`: the requests and the answers.
-/

namespace Megaphone

open Memory

/-! ### Constants -/

/-- `BUFSIZ` of `stdio.h`. -/
def BUFSIZ : ℕ := 8192

/-- `MAX_DATALEN`. -/
def MAX_DATALEN : ℕ := 255

/-- `FILE_PACKET_SIZE`. -/
def FILE_PACKET_SIZE : ℕ := 512

/-- `PSEUDO_LEN`. -/
abbrev PSEUDO_LEN : ℕ := 10

/-- `ADDRMULT_LEN`. -/
abbrev ADDRMULT_LEN : ℕ := 16

/-- `NT_DATA_LEN`. -/
def NT_DATA_LEN : ℕ := 20

/-- `UDP_PORT`. -/
def UDP_PORT : UInt16 := 6227

/-- `CRLF[0]`. -/
def CR : UInt8 := 13

/-- `CRLF[1]`. -/
def LF : UInt8 := 10

def REGISTRATION : UInt8 := 0x01
def NEWPOST : UInt8 := 0x02
def LASTPOSTS : UInt8 := 0x03
def SUBSCRIBE : UInt8 := 0x04
def UPLOAD : UInt8 := 0x05
def DOWNLOAD : UInt8 := 0x06

lemma newpost_ne : NEWPOST ≠ REGISTRATION := by decide

lemma lastposts_ne : LASTPOSTS ≠ REGISTRATION := by decide

lemma subscribe_ne : SUBSCRIBE ≠ REGISTRATION := by decide

lemma upload_ne : UPLOAD ≠ REGISTRATION := by decide

def NOERROR : UInt16 := 0x00
def ERR_NOID : UInt16 := 0x19
def ERR_FEEDNB : UInt16 := 0x1A
def ERR_NOFILE : UInt16 := 0x1B
def ERR_PSEUDO : UInt16 := 0x1C
def ERR_NOTCOMPLET : UInt16 := 0x1D
def ERR_FEEDMAX : UInt16 := 0x1E
def ERR_IDMAX : UInt16 := 0x1F

/-- `is_error`. -/
def isError (type : UInt8) : Bool :=
  type.toUInt16 == ERR_NOID || type.toUInt16 == ERR_FEEDNB || type.toUInt16 == ERR_NOFILE ||
    type.toUInt16 == ERR_PSEUDO || type.toUInt16 == ERR_NOTCOMPLET ||
    type.toUInt16 == ERR_FEEDMAX || type.toUInt16 == ERR_IDMAX

/-! ### Headers -/

/-- `CODERQ_BITSLEN`. -/
def CODERQ_BITSLEN : UInt16 := 5

/-- `HEADER_MASK`. -/
def HEADER_MASK : UInt16 := 0x1F

/-- `get_rq_type`. -/
def getRqType (hd : UInt16) : UInt8 := (hd &&& HEADER_MASK).toUInt8

/-- `get_id`. -/
def getId (hd : UInt16) : UInt16 := (hd - (hd &&& HEADER_MASK)) >>> CODERQ_BITSLEN

/-- The header `type | id << CODERQ_BITSLEN`. -/
def mkHeader (type : UInt8) (id : UInt16) : UInt16 := type.toUInt16 ||| (id <<< CODERQ_BITSLEN)

lemma toNat_and_mask (hd : UInt16) : (hd &&& HEADER_MASK).toNat = hd.toNat % 32 := by
  rw [UInt16.toNat_and, show HEADER_MASK.toNat = 2 ^ 5 - 1 from rfl,
    Nat.and_two_pow_sub_one_eq_mod]

lemma toNat_getRqType (hd : UInt16) : (getRqType hd).toNat = hd.toNat % 32 := by
  rw [getRqType, UInt16.toNat_toUInt8, toNat_and_mask]
  omega

lemma toNat_getId (hd : UInt16) : (getId hd).toNat = hd.toNat / 32 := by
  have hle : hd &&& HEADER_MASK ≤ hd := by
    rw [UInt16.le_iff_toNat_le, toNat_and_mask]
    exact Nat.mod_le _ _
  rw [getId, UInt16.toNat_shiftRight, UInt16.toNat_sub_of_le _ _ hle, toNat_and_mask,
    show CODERQ_BITSLEN.toNat % 16 = 5 from rfl, Nat.shiftRight_eq_div_pow]
  omega

lemma toNat_mkHeader {type : UInt8} {id : UInt16} (ht : type.toNat < 32) (hid : id.toNat < 2048) :
    (mkHeader type id).toNat = id.toNat * 32 + type.toNat := by
  simp only [mkHeader, CODERQ_BITSLEN, UInt16.toNat_or, UInt8.toNat_toUInt16,
    UInt16.toNat_shiftLeft]
  rw [show (5 : UInt16).toNat % 16 = 5 from rfl, Nat.shiftLeft_eq,
    Nat.mod_eq_of_lt (show id.toNat * 2 ^ 5 < 2 ^ 16 by omega), Nat.or_comm, Nat.mul_comm,
    ← Nat.two_pow_add_eq_or_of_lt (show type.toNat < 2 ^ 5 by omega)]
  omega

lemma getRqType_mkHeader {type : UInt8} {id : UInt16} (ht : type.toNat < 32)
    (hid : id.toNat < 2048) : getRqType (mkHeader type id) = type := by
  rw [← UInt8.toNat_inj, toNat_getRqType, toNat_mkHeader ht hid]
  omega

lemma getId_mkHeader {type : UInt8} {id : UInt16} (ht : type.toNat < 32)
    (hid : id.toNat < 2048) : getId (mkHeader type id) = id := by
  rw [← UInt16.toNat_inj, toNat_getId, toNat_mkHeader ht hid]
  omega

/-- A header identifies at most 2048 users. -/
lemma toNat_getId_lt (hd : UInt16) : (getId hd).toNat < 2048 := by
  have := hd.toNat_lt
  rw [toNat_getId]
  omega

/-! ### 16-bit words in memory -/

/-- The two bytes of a 16-bit word in the memory of a little-endian host. -/
def u16Bytes (x : UInt16) : List UInt8 :=
  [UInt8.ofNat (x.toNat % 256), UInt8.ofNat (x.toNat / 256)]

/-- The 16-bit word that two bytes in memory make. -/
def u16OfBytes (bs : List UInt8) : UInt16 :=
  UInt16.ofNat ((bs.getD 0 0).toNat + 256 * (bs.getD 1 0).toNat)

/-- `htons`: the bytes of the word are swapped. -/
def htons (x : UInt16) : UInt16 := UInt16.ofNat (x.toNat % 256 * 256 + x.toNat / 256)

/-- `ntohs`. -/
def ntohs (x : UInt16) : UInt16 := htons x

/-- The high byte of a word, which the network order puts first. -/
def hi (x : UInt16) : UInt8 := UInt8.ofNat (x.toNat / 256)

/-- The low byte of a word. -/
def lo (x : UInt16) : UInt8 := UInt8.ofNat (x.toNat % 256)

lemma toNat_htons (x : UInt16) : (htons x).toNat = x.toNat % 256 * 256 + x.toNat / 256 := by
  have := x.toNat_lt
  rw [htons, UInt16.toNat_ofNat']
  omega

@[simp] lemma ntohs_htons (x : UInt16) : ntohs (htons x) = x := by
  have := x.toNat_lt
  rw [← UInt16.toNat_inj, ntohs, toNat_htons, toNat_htons]
  omega

lemma u16OfBytes_u16Bytes (x : UInt16) : u16OfBytes (u16Bytes x) = x := by
  have := x.toNat_lt
  rw [← UInt16.toNat_inj, u16OfBytes, u16Bytes]
  simp only [List.getD_cons_zero, List.getD_cons_succ, UInt8.toNat_ofNat', UInt16.toNat_ofNat']
  omega

/-- The bytes of a word in network order. -/
lemma u16Bytes_htons (x : UInt16) : u16Bytes (htons x) = [hi x, lo x] := by
  have := x.toNat_lt
  have hmod : (x.toNat % 256 * 256 + x.toNat / 256) % 256 = x.toNat / 256 := by omega
  have hdiv : (x.toNat % 256 * 256 + x.toNat / 256) / 256 = x.toNat % 256 := by omega
  rw [u16Bytes, toNat_htons, hi, lo, hmod, hdiv]

/-- A word read back from its bytes in network order. -/
@[simp] lemma ntohs_u16OfBytes (x : UInt16) : ntohs (u16OfBytes [hi x, lo x]) = x := by
  rw [← u16Bytes_htons, u16OfBytes_u16Bytes, ntohs_htons]

/-- The value of a word in network order. -/
lemma toNat_ntohs_u16OfBytes (a b : UInt8) :
    (ntohs (u16OfBytes [a, b])).toNat = a.toNat * 256 + b.toNat := by
  have ha := a.toNat_lt
  have hb := b.toNat_lt
  rw [ntohs, toNat_htons, u16OfBytes]
  simp only [List.getD_cons_zero, List.getD_cons_succ, UInt16.toNat_ofNat']
  omega

/-- Two bytes in network order are those of the word read from them. -/
lemma hi_lo_ntohs (a b : UInt8) :
    [hi (ntohs (u16OfBytes [a, b])), lo (ntohs (u16OfBytes [a, b]))] = [a, b] := by
  have ha := a.toNat_lt
  have hb := b.toNat_lt
  rw [hi, lo, toNat_ntohs_u16OfBytes, show (a.toNat * 256 + b.toNat) / 256 = a.toNat by omega,
    show (a.toNat * 256 + b.toNat) % 256 = b.toNat by omega]
  simp

/-! ### Buffers -/

/-- `BytesRQ`: the bytes of `buf` and their number.  Only the first `BUFSIZ` offsets are part of the
buffer. -/
structure BytesRQ where
  buf : ℕ → UInt8
  size : ℕ

/-- A `BytesRQ` after `memset(&b_rq, 0, sizeof(b_rq))`. -/
def BytesRQ.zero : BytesRQ := ⟨fun _ => 0, 0⟩

/-- The first `size` bytes of the buffer. -/
def BytesRQ.frame (b : BytesRQ) : List UInt8 := read b.buf 0 b.size

/-- `appendbuf`: `elt` is the object of `elt_size` bytes. -/
def appendbuf (b : BytesRQ) (elt : List UInt8) : BytesRQ :=
  ⟨write b.buf b.size elt, b.size + elt.length⟩

/-- `extractbuf`: the bytes of the element, and the size behind it. -/
def extractbuf (buf : ℕ → UInt8) (size elt_size : ℕ) : List UInt8 × ℕ :=
  (read buf size elt_size, size + elt_size)

@[simp] lemma frame_zero : BytesRQ.zero.frame = [] := rfl

/-- `appendbuf` appends to what `send` sends. -/
@[simp] lemma frame_appendbuf (b : BytesRQ) (elt : List UInt8) :
    (appendbuf b elt).frame = b.frame ++ elt :=
  read_write_append b.buf b.size elt

/-! ### Requests and answers -/

/-- `pseudo_t`. -/
abbrev Pseudo := Vector UInt8 PSEUDO_LEN

/-- The first bytes of `bs` as a `pseudo_t`. -/
def pseudoOfBytes (bs : List UInt8) : Pseudo := Vector.ofFn fun i => bs.getD i 0

@[simp] lemma length_toList_vector {n : ℕ} (v : Vector UInt8 n) : v.toList.length = n := by simp

@[simp] lemma pseudoOfBytes_toList (p : Pseudo) : pseudoOfBytes p.toList = p := by
  ext i hi
  simp [pseudoOfBytes, List.getD_eq_getElem?_getD]

lemma toList_pseudoOfBytes {bs : List UInt8} (h : bs.length = PSEUDO_LEN) :
    (pseudoOfBytes bs).toList = bs := by
  refine List.ext_getElem (by simp [h]) fun i h₁ h₂ => ?_
  simp [pseudoOfBytes, List.getD_eq_getElem?_getD, h₂]

/-- `ClientRQ_Rg`. -/
structure ClientRQRg where
  header : UInt16
  pseudo : Pseudo

/-- `ClientRQ_Cl`: `datalen` bytes of `data` are used. -/
structure ClientRQCl where
  header : UInt16
  feedNumber : UInt16
  count : UInt16
  datalen : UInt8
  data : ℕ → UInt8

/-- `FTransferRQ`. -/
structure FTransferRQ where
  header : UInt16
  numblock : UInt16
  data : ℕ → UInt8

/-- `ClientRQ` on the TCP side: the member of the union that is in use is the one of the type. -/
inductive ClientRQ
  | rg (rq : ClientRQRg)
  | cl (type : UInt8) (h : type ≠ REGISTRATION) (rq : ClientRQCl)

/-- The field `type` of a request. -/
def ClientRQ.type : ClientRQ → UInt8
  | .rg _ => REGISTRATION
  | .cl type _ _ => type

/-- `ServerRQ_Cl`. -/
structure ServerRQCl where
  header : UInt16
  feedNumber : UInt16
  count : UInt16
  deriving DecidableEq

/-- `ServerRQ_Lp`. -/
structure ServerRQLp where
  feedNumber : UInt16
  creator : Pseudo
  pseudo : Pseudo
  datalen : UInt8
  data : ℕ → UInt8

/-- `ServerRQ_Nt`. -/
structure ServerRQNt where
  header : UInt16
  feedNumber : UInt16
  pseudo : Pseudo
  data : ℕ → UInt8

/-- `ServerRQ_Sb`. -/
structure ServerRQSb where
  header : UInt16
  feedNumber : UInt16
  count : UInt16
  addr : Vector UInt8 ADDRMULT_LEN

/-- The union of `ServerRQ`. -/
inductive ServerBody
  | cl (rq : ServerRQCl)
  | sb (rq : ServerRQSb)
  | lp (rq : ServerRQLp)

/-- `ServerRQ` on the TCP side. -/
structure ServerRQ where
  type : UInt8
  body : ServerBody

instance : CZero ServerRQ := ⟨⟨0, .cl ⟨0, 0, 0⟩⟩⟩

/-- The bytes of text that a request or a post carries. -/
def textOf (datalen : UInt8) (data : ℕ → UInt8) : List UInt8 := read data 0 datalen.toNat

@[simp] lemma length_textOf (datalen : UInt8) (data : ℕ → UInt8) :
    (textOf datalen data).length = datalen.toNat := by
  simp [textOf]

end Megaphone
