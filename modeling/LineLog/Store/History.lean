import LineLog.Store.Basic

/-!
# The life of a store

A store is called in any order while the file system changes behind its back.
Every call is kept with its reply and with what it has made of the store and the host.
-/

namespace LineLog

inductive StoreCall where
  /-- Appends a record while the system behaves as `obstacles` say. -/
  | append (obstacles : Obstacles) (record : Bytes)
  | snapshot
  | length
  | remove

inductive StoreReply where
  | appended (result : Except StoreError Unit)
  | bytes (bytes : Bytes)
  | count (count : Nat)
  | removed (result : Except StoreError Unit)

inductive StoreEvent where
  | call (call : StoreCall)
  /-- Somebody else changes the host. -/
  | change (change : Host → Host)

/-- A call and what came of it. -/
structure StoreStep where
  call : StoreCall
  before : Host × Store
  reply : StoreReply
  after : Host × Store

namespace Store

def call (call : StoreCall) (store : Store) (host : Host) : (Host × Store) × StoreReply :=
  match call with
  | .append obstacles record =>
      let (state, result) := store.appendAgainst obstacles record host
      (state, .appended (result.mapError (.ofAppend store.path)))
  | .snapshot => ((host, store), .bytes store.snapshot)
  | .length => ((host, store), .count store.length)
  | .remove =>
      let (state, result) := store.remove host
      (state, .removed result)

/-- The calls of a sequence of events with their replies, and the state in the end. -/
def history : List StoreEvent → Host × Store → List StoreStep × (Host × Store)
  | [], state => ([], state)
  | .change change :: events, (host, store) => history events (change host, store)
  | .call call :: events, (host, store) =>
      let (after, reply) := store.call call host
      let (steps, final) := history events after
      (⟨call, (host, store), reply, after⟩ :: steps, final)

end Store

end LineLog
