import Telga.Domain.Text
import Telga.Library.Aead
import Telga.Library.Attempt
import Telga.Library.Entries
import Telga.Library.Hex
import Telga.Library.Utf8

namespace Telga.Application.DocumentVault
open Domain Library

abbrev Bytes := List UInt8

/-- AES-256-GCM: 32-byte key, 12-byte nonce, 16-byte tag. -/
def keyBytes : Nat := 32

def nonceBytes : Nat := 12

def tagBytes : Nat := 16

/-- What a scanned document may be. Anything else is refused unopened. -/
def allowedDocumentTypes : List String :=
  ["image/jpeg", "image/png", "application/pdf"]

/-- Four megabytes. -/
def maxDocumentBytes : Nat := 4 * 1024 * 1024

inductive DocumentStoreRefusal
  | noEncryptionKey
  | keyWrongLength
  | mediaTypeNotAllowed
  | documentEmpty
  | documentTooLarge
deriving DecidableEq

/-- What the vault throws. -/
inductive VaultFault
  | refused (refusal : DocumentStoreRefusal)
  | unsafeHandle
  | missing
  | unopened
deriving DecidableEq

def isHexDigit (c : Char) : Bool :=
  c.isDigit || ('a' ≤ c && c ≤ 'f') || ('A' ≤ c && c ≤ 'F')

/-- The bytes of hexadecimal digits. A digit left over at the end is dropped. -/
def hexBytes : List Char → Bytes
  | high :: low :: rest =>
    UInt8.ofNat (16 * hexDigit high.toLower + hexDigit low.toLower) :: hexBytes rest
  | _ => []

/-- Read the key, or refuse. The decoded length is checked rather than the string's. -/
def keyFrom (fromBase64url : String → Bytes) (raw : Option String) :
    Except DocumentStoreRefusal Bytes := do
  let raw ← expect raw .noEncryptionKey
  let trimmed := trim raw
  demand (trimmed ≠ "") .noEncryptionKey
  let decoded :=
    if trimmed.toList.all isHexDigit then hexBytes trimmed.toList else fromBase64url trimmed
  demand (decoded.length = keyBytes) .keyWrongLength
  return decoded

/-- A vault's cipher. The key is read once, when the vault is created. -/
def createDocumentVault (aes256gcm : Bytes → Aead UInt8) (fromBase64url : String → Bytes)
    (encryptionKey : Option String) : Except DocumentStoreRefusal (Aead UInt8) := do
  let key ← keyFrom fromBase64url encryptionKey
  return aes256gcm key

def isAllowedMediaType (value : String) : Bool :=
  value ∈ allowedDocumentTypes

def isHandleChar (c : Char) : Bool :=
  c.isAlphanum || c == '_' || c == '-'

/-- The shape of a handle this module generates. -/
def safeHandle (documentUri : String) : Bool :=
  let name := documentUri.toList
  let body := (name.drop 4).take (name.length - 8)
  name.take 4 == "doc_".toList && name.drop (name.length - 4) == ".enc".toList &&
    1 ≤ body.length && body.length ≤ 64 && body.all isHandleChar

structure StoredDocument where
  documentUri : String
  mediaType : String
  bytes : Nat
deriving DecidableEq

/-- The files of the vault's directory. -/
abbrev Files := Entries String Bytes

/-- The media type as it is bound to a document. -/
def mediaData (mediaType : String) : Bytes :=
  utf8Bytes mediaType.toList

/-- Encrypt a document under a fresh nonce and write it under a new id. -/
def store (cipher : Aead UInt8) (files : Files) (content : Bytes) (mediaType : String)
    (nonce : Bytes) (newId : String) : Except VaultFault (Files × StoredDocument) := do
  demand (isAllowedMediaType mediaType = true) (.refused .mediaTypeNotAllowed)
  demand (content ≠ []) (.refused .documentEmpty)
  demand (content.length ≤ maxDocumentBytes) (.refused .documentTooLarge)
  let documentUri := newId ++ ".enc"
  demand (safeHandle documentUri = true) .unsafeHandle
  return (files.put documentUri (cipher.packed ⟨nonce, mediaData mediaType, content⟩),
    { documentUri, mediaType, bytes := content.length })

/-- Open the file of a handle, with the media type the database has for it. -/
def read (cipher : Aead UInt8) (files : Files) (documentUri mediaType : String) :
    Except VaultFault Bytes := do
  demand (safeHandle documentUri = true) .unsafeHandle
  let raw ← expect (files.lookup documentUri) .missing
  expect (cipher.unpack nonceBytes tagBytes raw (mediaData mediaType)) .unopened

/-- A document that was stored, with the nonce it was sealed under. -/
structure Document where
  handle : String
  mediaType : String
  content : Bytes
  nonce : Bytes
deriving DecidableEq

/-- The vault's directory, and every document ever stored in it. -/
structure Vault where
  files : Files
  documents : List Document

/-- What can happen to a vault: a document is stored under a nonce and an id that are drawn for it,
or its directory is changed. -/
inductive VaultEvent
  | stores (content : Bytes) (mediaType : String) (nonce : Bytes) (newId : String)
  | changes (files : Files)

/-- What storing makes of a vault. Nothing is written when it is refused. -/
def Vault.storing (cipher : Aead UInt8) (vault : Vault) (content : Bytes) (mediaType : String)
    (nonce : Bytes) (newId : String) : Vault :=
  match store cipher vault.files content mediaType nonce newId with
  | .ok (files, stored) =>
    { files
      documents := vault.documents ++ [⟨stored.documentUri, stored.mediaType, content, nonce⟩] }
  | .error _ => vault

/-- Nonces have their size and no id is drawn twice. The directory may become anything. -/
inductive VaultStep (cipher : Aead UInt8) : Vault → VaultEvent → Vault → Prop
  | stores {vault : Vault} {content nonce : Bytes} {mediaType newId : String} :
      nonce.length = nonceBytes →
      (∀ document ∈ vault.documents, document.handle ≠ newId ++ ".enc") →
      VaultStep cipher vault (.stores content mediaType nonce newId)
        (vault.storing cipher content mediaType nonce newId)
  | changes {vault : Vault} {files : Files} :
      VaultStep cipher vault (.changes files) { vault with files }

/-- A vault over an empty directory. -/
def emptyVault : Vault where
  files := []
  documents := []

section Operations

variable {cipher : Aead UInt8} {files files' : Files} {content nonce bytes : Bytes}
  {mediaType newId handle : String} {stored : StoredDocument}

/-- A document is stored exactly when nothing is refused of it. -/
theorem store_ok : store cipher files content mediaType nonce newId = .ok (files', stored) ↔
    isAllowedMediaType mediaType = true ∧ content ≠ [] ∧ content.length ≤ maxDocumentBytes ∧
      safeHandle (newId ++ ".enc") = true ∧
      files.put (newId ++ ".enc") (cipher.packed ⟨nonce, mediaData mediaType, content⟩) = files' ∧
      ⟨newId ++ ".enc", mediaType, content.length⟩ = stored := by
  simp only [store, bind_ok, demand_ok, pure_ok, Prod.mk.injEq, exists_const]

theorem read_ok : read cipher files handle mediaType = .ok bytes ↔
    safeHandle handle = true ∧ ∃ raw, files.lookup handle = some raw ∧
      cipher.unpack nonceBytes tagBytes raw (mediaData mediaType) = some bytes := by
  simp only [read, bind_ok, demand_ok, expect_ok, exists_const]

end Operations

end Telga.Application.DocumentVault
