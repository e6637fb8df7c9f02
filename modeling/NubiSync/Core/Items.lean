import NubiSync.Core.Text

set_option autoImplicit false

/-! # Provider items and changes

The provider-neutral data of `nubisync-core`: the items of the remote tree, the changes of an
incremental feed with its cursors and pages, local snapshots, and the synchronization modes of a root.

Here and in the other modules a definition with the name of an item of the source, in Lean's case, is that
item. -/

namespace NubiSync

inductive SyncMode where
  | twoWay
  | mirrorLocalToRemote
  | receiveOnly
  deriving DecidableEq, Repr

inductive RemoteItemKind where
  | file
  | folder
  deriving DecidableEq, Repr

/-- `RemoteItem`: one item of the remote tree as the provider reports it. -/
structure RemoteItem where
  remoteId : Text
  parentRemoteId : Option Text
  name : Text
  kind : RemoteItemKind
  sizeBytes : Option ℕ
  modifiedUnixMs : Option Int
  trashed : Bool
  deriving DecidableEq, Repr

/-- `RemoteChange`: one entry of the provider's change feed. -/
inductive RemoteChange where
  | upsert (item : RemoteItem)
  | delete (remoteId : Text)
  deriving DecidableEq, Repr

inductive LocalItemKind where
  | file
  | directory
  deriving DecidableEq, Repr

/-- `LocalItemSnapshot`: the observed identity of one local item. The fields are private to the source
    module, so a snapshot carries the checks of `LocalItemSnapshot::new`. -/
structure LocalItemSnapshot where
  relativePath : Text
  kind : LocalItemKind
  sizeBytes : Option ℕ
  modifiedUnixNs : Int
  deviceId : ℕ
  inode : ℕ
  safe : isSafeRelativePath relativePath = true
  sized : sizeBytes.isSome = (kind == .file)
  deriving DecidableEq

/-- `ChangeCursor`: an opaque position in the provider's change feed. -/
structure ChangeCursor where
  asStr : Text
  nonempty : asStr ≠ []
  deriving DecidableEq

/-- `ContinuationToken`: an opaque pagination token. -/
structure ContinuationToken where
  asStr : Text
  nonempty : asStr ≠ []
  deriving DecidableEq

/-- A cursor of one character. -/
def ChangeCursor.ofChar (c : Char) : ChangeCursor := ⟨[c], List.cons_ne_nil c []⟩

/-- A token of one character. -/
def ContinuationToken.ofChar (c : Char) : ContinuationToken := ⟨[c], List.cons_ne_nil c []⟩

/-- `ChangePage`: one page of the change feed, with a continuation or a checkpoint. -/
structure ChangePage where
  changes : List RemoteChange
  continuation : Option ContinuationToken
  checkpoint : Option ChangeCursor

/-- The remote id a change is about. -/
def RemoteChange.remoteId : RemoteChange → Text
  | .upsert item => item.remoteId
  | .delete remoteId => remoteId

end NubiSync
