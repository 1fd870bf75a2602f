/-
# Values that are strings of bytes

A returned string may be a text or bytes, in place or behind references, boxes, shared pointers and
values that are borrowed or owned by turns.  `toBytes` gives the bytes, and `owns` whether they lie in the
value itself or behind a reference in it.
-/

import Loadable.Text.Utf8

namespace Loadable

/-- A value that a string function can return. -/
inductive Buffer where
  | text (s : String)
  | bytes (bs : Bytes)
  | ownedText (s : String)
  | ownedBytes (bs : Bytes)
  | reference (b : Buffer)
  | mutableReference (b : Buffer)
  | boxed (b : Buffer)
  /-- Behind a shared pointer of one thread. -/
  | shared (b : Buffer)
  /-- Behind a shared pointer of several threads. -/
  | atomicShared (b : Buffer)
  | eitherBorrowed (b : Buffer)
  | eitherOwned (b : Buffer)
  deriving DecidableEq, Repr

/-- The bytes of a value. -/
def Buffer.toBytes : Buffer → Bytes
  | text s => Utf8.encode s
  | bytes bs => bs
  | ownedText s => Utf8.encode s
  | ownedBytes bs => bs
  | reference b => b.toBytes
  | mutableReference b => b.toBytes
  | boxed b => b.toBytes
  | shared b => b.toBytes
  | atomicShared b => b.toBytes
  | eitherBorrowed b => b.toBytes
  | eitherOwned b => b.toBytes

/-- Whether a value holds its bytes, so that they go when it goes.  A shared pointer is taken for the last
one to what it points to. -/
def Buffer.owns : Buffer → Bool
  | text _ => true
  | bytes _ => true
  | ownedText _ => true
  | ownedBytes _ => true
  | reference _ => false
  | mutableReference _ => false
  | boxed b => b.owns
  | shared b => b.owns
  | atomicShared b => b.owns
  | eitherBorrowed _ => false
  | eitherOwned b => b.owns

end Loadable
