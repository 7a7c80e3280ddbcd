import Esp8266At.App.Update
import Esp8266At.Tcp.Input

/-!
# Certificates in RAM

`AT+SSLLOADCERT` builds a sector with one certificate in RAM, and `espconn_mbedtls.c` takes what it reads from that
sector out of this copy as long as the read ends inside it. What the load of the client's CA then reads is the
certificate that has been received (`certificate_loaded`), in the layout of the tool `make_cacert.py`.
-/

namespace Esp8266At.Tcp

open ByteSpace

/-- `SYSTEM_PARTITION_SSL_CLIENT_CA_ADDR` of a build. -/
def systemPartitionSslClientCaAddr (spiFlashSizeMap : UInt8) : UInt32 := systemPartitionParamStart spiFlashSizeMap

/-- `flash_sector_in_ram`. -/
structure RamSector where
  sector : UInt32
  size : UInt32
  buffer : Option (List UInt8)
  deriving DecidableEq

/-- `espconn_in_ram_sector` after a reset, and after the certificate has been deleted. -/
def RamSector.none : RamSector := ⟨0, 0, .none⟩

/-! ### Loading a certificate -/

/-- The certificate buffer for the characters that have been received. -/
def certBuffer (input : List UInt8) : List UInt8 :=
  let tcp_input_buf := List.replicate SECTOR_SIZE 0
  let tcp_input_buf := overwrite tcp_input_buf (TCP_CERT_HEAD_SIZE + TCP_CERT_LEN_SIZE) input
  -- Create header and length in RAM sector
  let tcp_input_buf := overwrite tcp_input_buf 0 (CString.ascii "TLS.ca_x509.cer" ++ [0])
  overwrite tcp_input_buf TCP_CERT_HEAD_SIZE [UInt8.ofNat input.length, UInt8.ofNat (input.length / 256)]

/-- `at_setupCmdTCPLoadCert`, with `espconn_in_ram_sector`. A failed `_request_get_input` frees an address inside
the buffer and answers nothing. -/
def atSetupCmdTCPLoadCert (lib : LibAt) (spiFlashSizeMap : UInt8) (pPara : List UInt8) (host : List (Option UInt8))
    (ram : RamSector) (s : Tcp) : RamSector × Tcp :=
  match certParams lib pPara with
  | none => (ram, s.responseError)
  | some len =>
    -- the current certificate is deleted
    if len = 0 then (.none, s.responseOk) else
    match s.zalloc with
    | (false, s) => (.none, s.responseError)
    | (true, s) =>
      -- a length that is not given is 0
      match s.requestGetInput len.toNat "+SSLLOADCERT" host with
      | ([], s) => (.none, s)
      | (ch :: input, s) =>
        let send_len := (ch :: input).length
        (⟨systemPartitionSslClientCaAddr spiFlashSizeMap / UInt32.ofNat SECTOR_SIZE,
          UInt32.ofNat (send_len + TCP_CERT_HEAD_SIZE + TCP_CERT_LEN_SIZE + 1), some (certBuffer (ch :: input))⟩,
          s.responseOk)

/-! ### Reading it for a connection -/

abbrev ESPCONN_SECURE_MAX_SIZE : ℕ := 16384

/-- `sizeof(file_head)`. -/
abbrev FILE_HEAD_SIZE : ℕ := 34

/-- Where `espconn_ssl_read_param_from_flash` takes bytes from. -/
inductive Source where
  | ram
  | flash
  deriving DecidableEq

/-- `espconn_ssl_read_param_from_flash` for files in sector `startSec`; `none` is `false`. -/
def espconnSslReadParamFromFlash (ram : RamSector) (flash : Space) (startSec : UInt32) (len offset : ℕ) :
    Option (Source × List UInt8) :=
  if len + offset > ESPCONN_SECURE_MAX_SIZE then none else
  match ram.buffer with
  | some buffer =>
    if ram.sector = startSec ∧ offset + len ≤ ram.size.toNat then some (.ram, (buffer.drop offset).take len)
    else some (.flash, slice flash (startSec * 4096 + UInt32.ofNat offset) len)
  | none => some (.flash, slice flash (startSec * 4096 + UInt32.ofNat offset) len)

/-- What the load of a CA has read: the length of the file, its contents, where they were taken from, and what is
handed to `mbedtls_x509_crt_parse`. -/
structure Loaded where
  fileLength : ℕ
  content : List UInt8
  sources : List Source
  parsed : List UInt8
  deriving DecidableEq

/-- `mbedtls_msg_info_load` for the CA (`ESPCONN_CERT_AUTH`) in sector `startSec`, up to the call of the parser;
`none` where there is no file or no memory. `heap` are the results of the coming calls of `os_zalloc`. -/
def mbedtlsMsgInfoLoad (ram : RamSector) (flash : Space) (startSec : UInt32) (heap : ℕ → Bool) : Option Loaded :=
  if heap 0 = false then none else
  let (source, head) := (espconnSslReadParamFromFlash ram flash startSec FILE_HEAD_SIZE 0).getD
    (.ram, List.replicate FILE_HEAD_SIZE 0)
  let file_length := leNat ((head.drop 32).take 2)
  if file_length = 0xFFFF then none else
  if heap 1 = false then none else
  let (source', content) := (espconnSslReadParamFromFlash ram flash startSec file_length FILE_HEAD_SIZE).getD
    (.ram, List.replicate file_length 0)
  -- `load_buf` is four bytes longer than the file; for PEM the zero byte behind it is part of it
  let load_buf := content ++ List.replicate 4 0
  let load_len := if (CString.strstr load_buf (CString.ascii "-----BEGIN")).isSome then file_length + 1 else file_length
  some ⟨file_length, content, [source, source'], load_buf.take load_len⟩

/-! ### `make_cacert.py` -/

/-- `Cert.__str__`; `none` is the error for a name that is too long. -/
def certStr (name buff : List UInt8) : Option (List UInt8) :=
  if name.length > 32 then none else
  some (overwrite (List.replicate 32 0) 0 name ++
    [UInt8.ofNat (buff.length &&& 0xFF), UInt8.ofNat ((buff.length &&& 0xFF00) >>> 8)] ++ buff)

/-! ### The certificate comes through -/

variable {lib : LibAt} {s : Tcp} {ram : RamSector} {pPara certificate : List UInt8} {host : List (Option UInt8)}
  {len capacity : ℕ}

/-- The name of the certificate in its field. -/
def certHead : List UInt8 := CString.ascii "TLS.ca_x509.cer" ++ List.replicate 17 0

theorem certHead_length : certHead.length = 32 := by decide

/-- The two bytes of a length. -/
def bytes16 (n : ℕ) : List UInt8 := [UInt8.ofNat n, UInt8.ofNat (n / 256)]

theorem fileHead_length (n : ℕ) : (certHead ++ bytes16 n).length = FILE_HEAD_SIZE := by
  rw [List.length_append, certHead_length]
  rfl

theorem leNat_bytes16 {n : ℕ} (h : n < 65536) : leNat (bytes16 n) = n := by
  simp [bytes16, leNat]
  omega

/-- The buffer holds the name, the length and the certificate, and zeros behind it. -/
theorem certBuffer_eq (h : certificate.length ≤ 4062) : certBuffer certificate =
    certHead ++ (bytes16 certificate.length ++ (certificate ++ List.replicate (4062 - certificate.length) 0)) := by
  have hzeros : List.replicate SECTOR_SIZE (0 : UInt8) = List.replicate 34 0 ++
      (List.replicate certificate.length 0 ++ List.replicate (4062 - certificate.length) 0) := by
    rw [List.replicate_append_replicate, List.replicate_append_replicate]
    congr 1
    simp only [SECTOR_SIZE]
    omega
  have hinput : overwrite (List.replicate SECTOR_SIZE 0) (TCP_CERT_HEAD_SIZE + TCP_CERT_LEN_SIZE) certificate =
      List.replicate 34 0 ++ (certificate ++ List.replicate (4062 - certificate.length) 0) := by
    rw [hzeros]
    have hold : (List.replicate certificate.length (0 : UInt8)).length = certificate.length := List.length_replicate
    exact overwrite_append hold
  set rest := certificate ++ List.replicate (4062 - certificate.length) (0 : UInt8)
  have hname : overwrite (List.replicate 34 0 ++ rest) 0 (CString.ascii "TLS.ca_x509.cer" ++ [0]) =
      certHead ++ (List.replicate 2 0 ++ rest) := by
    have hold : (List.replicate 16 (0 : UInt8)).length = (CString.ascii "TLS.ca_x509.cer" ++ [0]).length := by decide
    have hover : overwrite ([] ++ (List.replicate 16 0 ++ (List.replicate 18 0 ++ rest))) 0
        (CString.ascii "TLS.ca_x509.cer" ++ [0]) =
          [] ++ ((CString.ascii "TLS.ca_x509.cer" ++ [0]) ++ (List.replicate 18 0 ++ rest)) := overwrite_append hold
    exact hover
  have hlength : overwrite (certHead ++ (List.replicate 2 0 ++ rest)) TCP_CERT_HEAD_SIZE (bytes16 certificate.length) =
      certHead ++ (bytes16 certificate.length ++ rest) := overwrite_append rfl
  unfold certBuffer
  simp only [hinput, hname]
  exact hlength

/-- `make_cacert.py` writes the same. -/
theorem certStr_eq (h : certificate.length ≤ 4062) : certStr (CString.ascii "TLS.ca_x509.cer") certificate =
    some ((certBuffer certificate).take (34 + certificate.length)) := by
  have hhead : overwrite (List.replicate 32 0) 0 (CString.ascii "TLS.ca_x509.cer") = certHead := by decide
  have hname : ¬(CString.ascii "TLS.ca_x509.cer").length > 32 := by decide
  have hmask : ∀ n : ℕ, UInt8.ofNat (n &&& 0xFF) = UInt8.ofNat n := by
    intro n
    apply UInt8.toNat_inj.mp
    rw [UInt8.toNat_ofNat', UInt8.toNat_ofNat', show n &&& 0xFF = n % 2 ^ 8 from Nat.and_two_pow_sub_one_eq_mod n 8,
      Nat.mod_mod]
  have hhigh : UInt8.ofNat ((certificate.length &&& 0xFF00) >>> 8) = UInt8.ofNat (certificate.length / 256) := by
    rw [Nat.shiftRight_and_distrib, show (0xFF00 : ℕ) >>> 8 = 0xFF from rfl, hmask, Nat.shiftRight_eq_div_pow]
  have hfront : certHead ++ (bytes16 certificate.length ++ (certificate ++ List.replicate (4062 - certificate.length) 0)) =
      (certHead ++ bytes16 certificate.length ++ certificate) ++ List.replicate (4062 - certificate.length) 0 := by
    simp only [List.append_assoc]
  have hlength : (certHead ++ bytes16 certificate.length ++ certificate).length = 34 + certificate.length := by
    rw [List.length_append, fileHead_length]
  rw [certStr, if_neg hname, hhead, hmask, hhigh, certBuffer_eq h, hfront, List.take_left' hlength]
  rfl

/-- The copy in RAM of a certificate. -/
def certSector (spiFlashSizeMap : UInt8) (certificate : List UInt8) : RamSector :=
  ⟨systemPartitionSslClientCaAddr spiFlashSizeMap / UInt32.ofNat SECTOR_SIZE,
    UInt32.ofNat (certificate.length + TCP_CERT_HEAD_SIZE + TCP_CERT_LEN_SIZE + 1), some (certBuffer certificate)⟩

variable {spiFlashSizeMap : UInt8}

/-- A read that ends inside the copy. -/
theorem read_certSector (flash : Space) {n offset : ℕ} (h : certificate.length ≤ 4062)
    (hin : offset + n ≤ certificate.length + 34) :
    espconnSslReadParamFromFlash (certSector spiFlashSizeMap certificate) flash
      (systemPartitionSslClientCaAddr spiFlashSizeMap / UInt32.ofNat SECTOR_SIZE) n offset =
      some (.ram, ((certBuffer certificate).drop offset).take n) := by
  have hsize : (certSector spiFlashSizeMap certificate).size.toNat = certificate.length + 35 := by
    simp only [certSector, TCP_CERT_HEAD_SIZE, TCP_CERT_LEN_SIZE]
    rw [UInt32.toNat_ofNat_of_lt' (by simp only [UInt32.size]; omega)]
  unfold espconnSslReadParamFromFlash
  rw [if_neg (by simp only [ESPCONN_SECURE_MAX_SIZE]; omega)]
  simp only [certSector] at hsize ⊢
  rw [if_pos ⟨trivial, by omega⟩]

/-- The load reads the certificate. -/
theorem mbedtlsMsgInfoLoad_certSector (flash : Space) (heap : ℕ → Bool) (h : certificate.length ≤ 4062) :
    mbedtlsMsgInfoLoad (certSector spiFlashSizeMap certificate) flash
      (systemPartitionSslClientCaAddr spiFlashSizeMap / UInt32.ofNat SECTOR_SIZE) heap =
      if heap 0 = true ∧ heap 1 = true then
        some ⟨certificate.length, certificate, [.ram, .ram],
          (certificate ++ List.replicate 4 0).take
            (if (CString.strstr (certificate ++ List.replicate 4 0) (CString.ascii "-----BEGIN")).isSome then
              certificate.length + 1 else certificate.length)⟩
      else none := by
  have hhead : ((certBuffer certificate).drop 0).take FILE_HEAD_SIZE = certHead ++ bytes16 certificate.length := by
    rw [certBuffer_eq h, List.drop_zero, ← List.append_assoc, List.take_left' (fileHead_length _)]
  have hlength : leNat (((certHead ++ bytes16 certificate.length).drop 32).take 2) = certificate.length := by
    rw [List.drop_left' certHead_length, List.take_of_length_le (by rfl), leNat_bytes16 (by omega)]
  have hcontent : ((certBuffer certificate).drop FILE_HEAD_SIZE).take certificate.length = certificate := by
    rw [certBuffer_eq h, ← List.append_assoc, List.drop_left' (fileHead_length _), List.take_left]
  unfold mbedtlsMsgInfoLoad
  rw [read_certSector flash h (by simp only [FILE_HEAD_SIZE]; omega)]
  simp only [Option.getD_some, hhead, hlength, read_certSector flash h (show FILE_HEAD_SIZE + certificate.length ≤ _ by
    simp only [FILE_HEAD_SIZE]; omega), hcontent]
  rw [if_neg (show certificate.length ≠ 0xFFFF by omega)]
  cases heap 0 with
  | false => simp
  | true =>
    cases heap 1 with
    | false => simp
    | true => simp

/-- `AT+SSLLOADCERT` with a certificate that is complete before the countdown is over. -/
theorem atSetupCmdTCPLoadCert_received (hreq : (InputCommand.loadCert pPara).request lib s = some (len, capacity))
    (halloc : s.heap 0 = true) (hlen : 1 ≤ certificate.length ∧ certificate.length ≤ 4062)
    (hreceived : Required len (arrived (INPUT_ROUNDS - 1) host) certificate) :
    (atSetupCmdTCPLoadCert lib spiFlashSizeMap pPara host ram s).1 = certSector spiFlashSizeMap certificate := by
  obtain ⟨hle, hcap⟩ := request_bounds hreq
  obtain ⟨ch, input, rfl⟩ : ∃ ch input, certificate = ch :: input := List.exists_cons_of_length_pos hlen.1
  have hfits : len = 0 → ((arrived INPUT_ROUNDS host).takeWhile (· ≠ TCPINPUT_TERMINATE_CHAR)).length < 65536 := by
    rintro rfl
    have hall : Required 0 (arrived INPUT_ROUNDS host) (ch :: input) :=
      hreceived.mono (arrived_initial (INPUT_ROUNDS - 1) host)
    rw [(required_terminated.mp hall).2]
    omega
  simp only [InputCommand.request] at hreq
  cases hcert : certParams lib pPara with
  | none =>
    rw [hcert] at hreq
    cases hreq
  | some n =>
    rw [hcert] at hreq
    simp only at hreq
    split_ifs at hreq with hzero
    obtain ⟨rfl, -⟩ := Prod.mk.inj (Option.some.inj hreq)
    have hinput := (requestGetInput_required s.zalloc.2 "+SSLLOADCERT" (by omega) hfits
      (List.cons_ne_nil ch input)).mpr hreceived
    have hzalloc : s.zalloc = (true, s.zalloc.2) := by rw [← halloc]; rfl
    unfold atSetupCmdTCPLoadCert
    simp only [hcert, if_neg hzero]
    rw [hzalloc]
    simp only
    generalize s.zalloc.2.requestGetInput n.toNat "+SSLLOADCERT" host = r at hinput
    obtain ⟨data, t⟩ := r
    simp only at hinput
    subst hinput
    rfl

/-- **A certificate loaded over AT reaches TLS unchanged**, from RAM alone, in the layout of `make_cacert.py`. -/
theorem certificate_loaded (spiFlashSizeMap : UInt8) (ram : RamSector)
    (hreq : (InputCommand.loadCert pPara).request lib s = some (len, capacity))
    (halloc : s.heap 0 = true) (hlen : 1 ≤ certificate.length ∧ certificate.length ≤ 4062)
    (hreceived : Required len (arrived (INPUT_ROUNDS - 1) host) certificate) :
    (∀ flash heap, (mbedtlsMsgInfoLoad (atSetupCmdTCPLoadCert lib spiFlashSizeMap pPara host ram s).1 flash
        (systemPartitionSslClientCaAddr spiFlashSizeMap / UInt32.ofNat SECTOR_SIZE) heap).map
          (fun l => (l.fileLength, l.content, l.sources)) =
        if heap 0 = true ∧ heap 1 = true then some (certificate.length, certificate, [.ram, .ram]) else none) ∧
      ∃ buffer, (atSetupCmdTCPLoadCert lib spiFlashSizeMap pPara host ram s).1.buffer = some buffer ∧
        certStr (CString.ascii "TLS.ca_x509.cer") certificate = some (buffer.take (34 + certificate.length)) := by
  rw [atSetupCmdTCPLoadCert_received hreq halloc hlen hreceived]
  refine ⟨fun flash heap => ?_, _, rfl, certStr_eq hlen.2⟩
  rw [mbedtlsMsgInfoLoad_certSector flash heap hlen.2]
  split_ifs <;> rfl

/-- A certificate of three characters, which ends with `^`. -/
def shortCert : List (Option UInt8) := [some 0x41, none, some 0x42, some 0x43, some TCPINPUT_TERMINATE_CHAR]

theorem shortCert_request : (InputCommand.loadCert (CString.ascii "=0\r")).request plainAt (atReset (fun _ => true) 5) =
    some (0, 4062) := by decide

theorem shortCert_required : Required 0 (arrived (INPUT_ROUNDS - 1) shortCert) [0x41, 0x42, 0x43] :=
  required_terminated.mpr (by decide +kernel)

theorem certificate_loaded_shortCert :
    (∀ flash heap, (mbedtlsMsgInfoLoad (atSetupCmdTCPLoadCert plainAt 2 (CString.ascii "=0\r") shortCert .none
        (atReset (fun _ => true) 5)).1 flash (systemPartitionSslClientCaAddr 2 / UInt32.ofNat SECTOR_SIZE) heap).map
          (fun l => (l.fileLength, l.content, l.sources)) =
        if heap 0 = true ∧ heap 1 = true then some (3, [0x41, 0x42, 0x43], [.ram, .ram]) else none) ∧
      ∃ buffer, (atSetupCmdTCPLoadCert plainAt 2 (CString.ascii "=0\r") shortCert .none
          (atReset (fun _ => true) 5)).1.buffer = some buffer ∧
        certStr (CString.ascii "TLS.ca_x509.cer") [0x41, 0x42, 0x43] = some (buffer.take 37) :=
  certificate_loaded 2 .none shortCert_request rfl (by decide) shortCert_required

end Esp8266At.Tcp
