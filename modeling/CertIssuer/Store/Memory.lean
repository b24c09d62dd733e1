import CertIssuer.Store.Error
import CertIssuer.Store.Table

/-!
A store in memory. A request or an issuer is stamped with the next version when it is put in, and
when its status is written. A secret is put in as it is, with whatever version it carries, and is
not stamped. A status write based on an older version of the object is refused, and one that names
no version is accepted.
-/

namespace CertIssuer

/-- A store in memory. -/
structure MemoryStore where
  requests : Table ObjectKey CertificateRequest
  issuers : Table IssuerKey Issuer
  secrets : Table ObjectKey Secret
  /-- The version stamped last. -/
  version : UInt64
  /-- How many status writes were accepted, without a bound. Each of them draws a version, so this
  is what a counter of 64 bits shows as long as the versions have not started over. -/
  writes : Nat
  /-- Whether status writes are accepted at all. -/
  writable : Bool

namespace MemoryStore

/-- The store without objects. -/
def empty : MemoryStore := ⟨.empty, .empty, .empty, 0, 0, true⟩

/-- The version to stamp next. -/
def nextVersion (s : MemoryStore) : UInt64 := s.version + 1

/-- A version as objects carry it. -/
def versionText (version : UInt64) : String := toString version.toNat

/-- The stamp of the next change. -/
def stamp (s : MemoryStore) : String := versionText s.nextVersion

/-! ### Insertions and removals -/

/-- Puts a request in, in the place of any with its key. -/
def insertRequest (s : MemoryStore) (r : CertificateRequest) : MemoryStore :=
  { s with requests := s.requests.insert r.key (r.atVersion s.stamp), version := s.nextVersion }

/-- Puts an issuer in, in the place of any with its key. -/
def insertIssuer (s : MemoryStore) (kind : IssuerKind) (i : Issuer) : MemoryStore :=
  { s with
    issuers := s.issuers.insert (.ofIssuer kind i) (i.atVersion s.stamp), version := s.nextVersion }

/-- Puts a secret in, in the place of any with its key. It keeps the version that it carries, and no
version is drawn for it. -/
def insertSecret (s : MemoryStore) (x : Secret) : MemoryStore :=
  { s with secrets := s.secrets.insert x.objectKey x }

/-- Takes a request out. -/
def removeRequest (s : MemoryStore) (key : ObjectKey) : MemoryStore :=
  { s with requests := s.requests.erase key }

/-! ### Reads -/

/-- The stored value, or the error that there is none. -/
def found {α : Type} (resource name : String) : Option α → Except StoreError α
  | some a => .ok a
  | none => .error (.notFound resource name)

/-- Reads a request. -/
def readRequest (s : MemoryStore) (key : ObjectKey) : Except StoreError CertificateRequest :=
  found CertificateRequest.resource key.name (s.requests.get? key)

/-- Reads an issuer. -/
def readIssuer (s : MemoryStore) (key : IssuerKey) : Except StoreError Issuer :=
  found key.kind.resource key.name (s.issuers.get? key)

/-- Reads a secret. -/
def readSecret (s : MemoryStore) (key : ObjectKey) : Except StoreError Secret :=
  found Secret.resource key.name (s.secrets.get? key)

/-! ### Status writes -/

/-- Whether an object was read before the stored one changed. -/
def isOutdated (stored incoming : Metadata) : Bool :=
  match incoming.resourceVersion with
  | some version => stored.resourceVersion ≠ some version
  | none => false

/-- The stored object with the status of the incoming one, at a new version. -/
def replaceStatus {σ τ : Type} (resource name version : String) (stored : Option (Object σ τ))
    (incoming : Object σ τ) : Except StoreError (Object σ τ) :=
  match stored with
  | none => .error (.notFound resource name)
  | some o =>
    if isOutdated o.metadata incoming.metadata then .error (.conflict resource name)
    else .ok ({ o with status := incoming.status }.atVersion version)

/-- Writes the status of a request. -/
def writeRequest (s : MemoryStore) (r : CertificateRequest) : Except StoreError MemoryStore :=
  if s.writable then
    (replaceStatus CertificateRequest.resource r.metadata.anyName s.stamp
        (s.requests.get? r.key) r).map fun o =>
      { s with
        requests := s.requests.insert r.key o, version := s.nextVersion, writes := s.writes + 1 }
  else .error (.unavailable "status writes are disabled")

/-- Writes the status of an issuer. -/
def writeIssuer (s : MemoryStore) (kind : IssuerKind) (i : Issuer) :
    Except StoreError MemoryStore :=
  if s.writable then
    (replaceStatus kind.resource i.metadata.anyName s.stamp
        (s.issuers.get? (.ofIssuer kind i)) i).map fun o =>
      { s with
        issuers := s.issuers.insert (.ofIssuer kind i) o, version := s.nextVersion,
        writes := s.writes + 1 }
  else .error (.unavailable "status writes are disabled")

end MemoryStore
end CertIssuer
