import LineLog.Os.Error
import LineLog.Bytes

/-!
# Receiving one message

A connection delivers its bytes in chunks.  The message is everything up to and
including the first newline; bytes behind it in the same chunk are dropped.
Receiving ends early when the peer closes, when a read fails, or when a read
times out and the service is found to be stopping.  Interrupted reads and other
time-outs are skipped.
-/

namespace LineLog

/-- What one read of a connection brings. -/
inductive Read where
  | chunk (bytes : Bytes)
  | endOfStream
  | timedOut
  | interrupted
  | failed (error : Os.Error)
  deriving DecidableEq, Repr

/-- What the reads of a connection amount to. -/
inductive Received where
  | message (bytes : Bytes)
  | closed (discarded : Nat)
  | abandoned (discarded : Nat)
  deriving DecidableEq, Repr

/-- A message that is being received, or the way in which receiving ended. -/
inductive Receiving where
  | waiting (bytes : Bytes)
  /-- A read has timed out, and the shutdown flag is looked at next. -/
  | silent (bytes : Bytes)
  | ended (result : Except Os.Error Received)

/-- How many bytes one read takes at most. -/
def Read.maxChunk : Nat := 1024

/-- Everything up to and including the first newline. -/
def Bytes.line? (bytes : Bytes) : Option Bytes :=
  if newline ∈ bytes then some (bytes.takeWhile (· ≠ newline) ++ [newline]) else none

namespace Receiving

def initial : Receiving := waiting []

def read (read : Read) : Receiving → Receiving
  | waiting bytes =>
      match read with
      | .chunk chunk =>
          match chunk.line? with
          | some line => ended (.ok (.message (bytes ++ line)))
          | none => waiting (bytes ++ chunk)
      | .endOfStream => ended (.ok (.closed bytes.length))
      | .timedOut => silent bytes
      | .interrupted => waiting bytes
      | .failed error => ended (.error error)
  | state => state

/-- Looks at the shutdown flag, which counts after a time-out only. -/
def look (stopping : Bool) : Receiving → Receiving
  | silent bytes => if stopping then ended (.ok (.abandoned bytes.length)) else waiting bytes
  | state => state

/-- Receiving from the beginning, over the reads in order, each with the shutdown
flag as it stands after the read. -/
def ofReads (reads : List (Read × Bool)) : Receiving :=
  reads.foldl (fun state (result, stopping) => (state.read result).look stopping) initial

end Receiving

end LineLog
