import Prospectus.Pdf.Encryption.Standard
import Prospectus.Pdf.File
import Prospectus.Pdf.Filter

/-!
# Encrypted files

A file is encrypted if its trailer refers to an encryption dictionary.  A file
that needs no password is unlocked when it is opened: its strings and the data
of its streams are deciphered, each with a key of its own object, and the
encryption dictionary goes.  Any other encrypted file is taken as it stands.
-/

namespace Prospectus.Pdf

/-- A way to encipher strings and streams. -/
inductive Cipher where
  | identity
  | rc4
  | aes128
  | aes256
deriving Repr, DecidableEq

namespace Cipher

/-- The cipher of a name. -/
def ofName? (name : Bytes) : Option Cipher :=
  if name = ascii "None" then some identity
  else if name = ascii "V2" then some rc4
  else if name = ascii "AESV2" then some aes128
  else if name = ascii "AESV3" then some aes256
  else none

/-- The key of an object. -/
def objectKey (c : Cipher) (fileKey : Bytes) (id : ObjectId) : Bytes :=
  let number := (Md5.bytesOf id.number.toUInt32).take 3 ++
    (Md5.bytesOf id.generation.toUInt32).take 2
  let mixed (salt : Bytes) : Bytes :=
    (Md5.digest (fileKey ++ number ++ salt)).take (min (fileKey.length + 5) 16)
  match c with
  | rc4 => mixed []
  | aes128 => mixed (ascii "sAlT")
  | identity | aes256 => fileKey

/-- Deciphers a chain of blocks that starts with the start of the chain. -/
def unchain? (keyLength : Nat) (key data : Bytes) : Option Bytes :=
  if data.length % 16 ≠ 0 || key.length ≠ keyLength then none
  else if data.length ≤ 16 then some []
  else Aes.unfill? (Aes.decipher key (data.take 16) (data.drop 16))

/-- Deciphers data of an object. -/
def decipher? (c : Cipher) (fileKey : Bytes) (id : ObjectId) (data : Bytes) :
    Option Bytes :=
  let key := c.objectKey fileKey id
  match c with
  | identity => some data
  | rc4 => some (Rc4.apply key data)
  | aes128 => unchain? 16 key data
  | aes256 => unchain? 32 key data

end Cipher

/-- All that is needed to decipher a file. -/
structure Unlocking where
  key : Bytes
  /-- The ciphers that the file names. -/
  ciphers : List (Bytes × Cipher)
  strings : Cipher
  streams : Cipher
  encryptMetadata : Bool

namespace Unlocking

/-- The ciphers that an encryption dictionary names. -/
def ciphersOf (d : Dictionary) : List (Bytes × Cipher) :=
  match d.get? "CF" with
  | some (.dictionary entries) => entries.filterMap fun (name, value) => do
    let cipher ← value.asDictionary?
    let method ← (cipher.get? "CFM").bind (·.asName?)
    return (name, ← Cipher.ofName? method)
  | _ => []

/-- What unlocks a file with the given encryption dictionary.  Only from version
4 on can ciphers be chosen; a cipher that is not known is RC4. -/
def ofDictionary (d : Dictionary) (h : StandardHandler) (key : Bytes) : Unlocking :=
  let ciphers :=
    if 4 ≤ h.version then (ascii "Identity", .identity) :: ciphersOf d else []
  let chosen (entry : String) : Cipher :=
    (((d.get? entry).bind (·.asName?)).bind fun name =>
      ciphers.lookup name).getD .rc4
  ⟨key, ciphers, chosen "StrF", chosen "StmF", h.encryptMetadata⟩

/-- Whether some entries say that they have a type. -/
def hasType (type : String) (entries : Dictionary) : Bool :=
  (entries.get? "Type").bind (·.asName?) = some (ascii type)

/-- Whether metadata are left alone, and the entries are of metadata. -/
def exempts (u : Unlocking) (entries : Dictionary) : Bool :=
  !u.encryptMetadata && hasType "Metadata" entries

/-- The cipher of a stream, which can name its own. -/
def streamCipher (u : Unlocking) (entries : Dictionary) : Cipher :=
  if ((filterNames? entries).getD []).contains (ascii "Crypt") then
    match (entries.get? "DecodeParms").bind (·.asDictionary?) with
    | some parameters =>
      (((parameters.get? "Name").bind (·.asName?)).bind fun name =>
        u.ciphers.lookup name).getD .identity
    | none => u.streams
  else u.streams

mutual

/-- An object deciphered. -/
def object? (u : Unlocking) (id : ObjectId) : Object → Option Object
  | .string bytes => (u.strings.decipher? u.key id bytes).map .string
  | .array items => (objects? u id items).map .array
  | .dictionary entries =>
    if u.exempts entries then some (.dictionary entries)
      else (entries? u id entries).map .dictionary
  | .stream entries data =>
    if hasType "XRef" entries || u.exempts entries then some (.stream entries data)
    else ((u.streamCipher entries).decipher? u.key id data).map (.stream entries)
  | other => some other

/-- Objects deciphered. -/
def objects? (u : Unlocking) (id : ObjectId) : List Object → Option (List Object)
  | [] => some []
  | object :: rest => do return (← object? u id object) :: (← objects? u id rest)

/-- Values of entries deciphered. -/
def entries? (u : Unlocking) (id : ObjectId) :
    List (Bytes × Object) → Option (List (Bytes × Object))
  | [] => some []
  | (key, value) :: rest => do return (key, ← object? u id value) ::
    (← entries? u id rest)

end

end Unlocking

namespace File

/-- The id and the entries of the encryption dictionary. -/
def encryption? (f : File) : Option (ObjectId × Dictionary) :=
  match f.trailer.get? "Encrypt" with
  | some (.reference id) =>
    (f.dictionary id).toOption.map fun entries => (id, entries)
  | _ => none

/-- Whether the file is encrypted. -/
def isEncrypted (f : File) : Bool := f.encryption?.isSome

/-- The first part of the file's identifier. -/
def identifier? (f : File) : Option Bytes :=
  match f.trailer.get? "ID" with
  | some (.array (.string bytes :: _)) => some bytes
  | _ => none

/-- The file with all its objects deciphered and without the encryption
dictionary. -/
def decipher? (f : File) (u : Unlocking) (dictionary : ObjectId) : Option File := do
  let objects ← (f.objects.filter (·.1 ≠ dictionary)).mapM fun (id, object) =>
    (u.object? id object).map fun deciphered => (id, deciphered)
  return { f with objects, trailer := f.trailer.filter (·.1 ≠ ascii "Encrypt") }

/-- Whether the handler that a file names is the standard one. -/
def checkHandler (d : Dictionary) : Except Defect Unit :=
  match d.get? "Filter" with
  | some (.name n) =>
    if n = ascii "Standard" then .ok () else .error .securityHandler
  | some other => .error (.wrongType "Name" other.typeName)
  | none => .error (.missingKey "Filter")

/-- Unlocks a file that needs no password; any other is left as it is. -/
def unlock (f : File) : Except Error File :=
  match f.encryption? with
  | none => .ok f
  | some (dictionary, d) =>
    match StandardHandler.ofDictionary? d with
    | none => .ok f
    | some h =>
      if !h.acceptsEmpty f.identifier? then .ok f
      else
        match checkHandler d with
        | .error defect => .error defect.error
        | .ok () =>
          let unlocked := do f.decipher? (.ofDictionary d h
            (← h.fileKey? f.identifier?)) dictionary
          match unlocked with
          | some file => .ok file
          | none => .error .encryptedDocument

/-- Opens a file. -/
def read (bytes : Bytes) : Except Error File :=
  match load bytes with
  | .error d => .error d.error
  | .ok f => f.unlock

end File

end Prospectus.Pdf
