import Prospectus.Pdf.Encryption.Aes
import Prospectus.Pdf.Encryption.Md5
import Prospectus.Pdf.Encryption.Rc4
import Prospectus.Pdf.Encryption.Sha2

/-!
# The standard security handler

The encryption dictionary of a file holds values from which a password can be
told to be right and the key of the file be found.  Revisions 2 to 4 build both
on MD5 and RC4, revisions 5 and 6 on SHA-2 and AES.  The only password that is
ever tried is the empty one, as the user's.
-/

namespace Prospectus.Pdf

/-- What the standard handler needs to know. -/
structure StandardHandler where
  version : Int
  revision : Int
  /-- The length of the key in bits. -/
  keyLength : Option Nat
  owner : Bytes
  user : Bytes
  /-- The key of the file, enciphered for the user. -/
  userKey : Bytes
  permissions : UInt32
  /-- The permissions, enciphered. -/
  sealedPermissions : Bytes
  encryptMetadata : Bool

namespace StandardHandler

/-- The permissions with the bits that are always set, and without those that
never are. -/
def settle (permissions : Int) : UInt32 :=
  ((permissions % 0x100000000).toNat.toUInt32 &&& 0x00000F3C) ||| 0xFFFFF0C0

/-- Whether a key of the given length is possible in a version of the handler. -/
def allows (version : Int) (keyLength : Option Nat) : Bool :=
  match version, keyLength with
  | 1, none | 2, none | 4, none | 5, none => true
  | 2, some n => 40 ≤ n && n ≤ 128 && n % 8 = 0
  | 4, some n => n = 128
  | 5, some n => n = 256
  | _, _ => false

/-- The handler that an encryption dictionary describes. -/
def ofDictionary? (d : Dictionary) : Option StandardHandler := do
  let encryptMetadata ← match d.get? "EncryptMetadata" with
    | some (.boolean b) => some b
    | none => some true
    | some _ => none
  let keyLength ← match d.get? "Length" with
    | some (.integer n) => if n < 0 then none else some (some n.toNat)
    | none => some none
    | some _ => none
  let version ← (d.get? "V").bind (·.asInteger?)
  let revision ← (d.get? "R").bind (·.asInteger?)
  let owner ← (d.get? "O").bind (·.asString?)
  let user ← (d.get? "U").bind (·.asString?)
  let permissions ← (d.get? "P").bind (·.asInteger?)
  if !allows version keyLength then failure
  let optional (key : String) : Bytes := ((d.get? key).bind (·.asString?)).getD []
  return {
    version, revision, keyLength, owner, user, userKey := optional "UE"
    permissions := settle permissions, sealedPermissions := optional "Perms"
    encryptMetadata }

/-- What fills a password up to 32 bytes. -/
def passwordFill : Bytes :=
  [0x28, 0xBF, 0x4E, 0x5E, 0x4E, 0x75, 0x8A, 0x41, 0x64, 0x00, 0x4E, 0x56, 0xFF,
    0xFA, 0x01, 0x08, 0x2E, 0x2E, 0x00, 0xB6, 0xD0, 0x68, 0x3E, 0x80, 0x2F,
    0x0C, 0xA9, 0xFE, 0x64, 0x53, 0x69, 0x7A]

/-- The length of the key in bytes, in revisions 2 to 4. -/
def keyBytes (h : StandardHandler) : Nat :=
  if h.revision ≤ 2 then 5 else h.keyLength.getD 40 / 8

/-- The key of the file in revisions 2 to 4, for a file with the given
identifier. -/
def digestKey (h : StandardHandler) (identifier : Bytes) : Bytes :=
  let mark := if 4 ≤ h.revision && !h.encryptMetadata
    then [0xFF, 0xFF, 0xFF, 0xFF] else []
  let digest := Md5.digest (passwordFill ++ h.owner ++
    Md5.bytesOf h.permissions ++ identifier ++ mark)
  let rounds := if 3 ≤ h.revision then 50 else 0
  ((List.range rounds).foldl (fun d _ => Md5.digest (d.take h.keyBytes))
    digest).take h.keyBytes

/-- The value by which the password is told to be right in revisions 3 and 4. -/
def userDigest (key identifier : Bytes) : Bytes :=
  let first := Rc4.apply key (Md5.digest (passwordFill ++ identifier))
  (List.range 19).foldl
    (fun d i => Rc4.apply (key.map (· ^^^ (i + 1).toUInt8)) d) first

/-- One round of hardening: enciphers the digest, many times over, with itself,
and digests the result.  Gives the next digest and the last byte of what was
enciphered. -/
def hardenOnce (digest : Bytes) : Bytes × UInt8 :=
  let repeated := (List.replicate 64 digest).flatten
  let enciphered :=
    Aes.encipher (digest.take 16) ((digest.drop 16).take 16) repeated
  let total : Nat :=
    (enciphered.take 16).foldl (fun total byte => total + byte.toNat) 0
  let kind := total % 3
  let next :=
    if kind = 0 then Sha2.digest256 enciphered
    else if kind = 1 then Sha2.digest384 enciphered
    else Sha2.digest512 enciphered
  (next, enciphered.getLastD 0)

/-- Hardens a digest: 64 rounds at least, then until a last byte is at most the
number of rounds less 32.  The second number counts the rounds done. -/
def harden : Nat → Nat → Bytes → Bytes
  | 0, _, digest => digest
  | fuel + 1, done, digest =>
    let (next, last) := hardenOnce digest
    if 64 ≤ done + 1 && last.toNat + 32 ≤ done + 1 then next
      else harden fuel (done + 1) next

/-- The digest of the empty password with some salt, in revisions 5 and 6. -/
def saltedDigest (h : StandardHandler) (salt : Bytes) : Bytes :=
  let digest := Sha2.digest256 salt
  if h.revision = 5 then digest else (harden 288 0 digest).take 32

/-- Whether the empty password is the user's. -/
def acceptsEmpty (h : StandardHandler) (identifier : Option Bytes) : Bool :=
  match h.revision, identifier with
  | 2, some id => Rc4.apply (h.digestKey id) passwordFill = h.user
  | 3, some id | 4, some id =>
    h.keyBytes ≤ 16 && userDigest (h.digestKey id) id = h.user.take 16
  | 5, _ | 6, _ =>
    48 ≤ h.user.length && h.saltedDigest ((h.user.drop 32).take 8) = h.user.take 32
  | _, _ => false

/-- Whether the enciphered permissions are the plain ones. -/
def agrees (h : StandardHandler) (key : Bytes) : Bool :=
  let opened := Aes.decipher key (List.replicate 16 0) h.sealedPermissions
  h.sealedPermissions.length = 16 && opened.take 4 = Md5.bytesOf h.permissions
    && (opened.drop 9).take 3 = ascii "adb"

/-- The key of the file, when the empty password is right. -/
def fileKey? (h : StandardHandler) (identifier : Option Bytes) : Option Bytes :=
  if h.revision ≤ 4 then identifier.map h.digestKey
  else
    let key := Aes.decipher (h.saltedDigest ((h.user.drop 40).take 8))
      (List.replicate 16 0) h.userKey
    if h.userKey.length = 32 && h.agrees key then some key else none

end StandardHandler

end Prospectus.Pdf
