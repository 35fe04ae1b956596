import ClusterAdmin.Failure
import ClusterAdmin.Wire.Codec

namespace ClusterAdmin.Wire

/-- How an operation on a socket goes wrong: it fails, or it is not done in time. -/
inductive SocketFault where
  | failed (error : Failure.IoError)
  | silent
  deriving DecidableEq, Repr

/-- What comes after the octets that the other end sent. -/
inductive Ending where
  /-- Nothing yet. -/
  | pending
  | hungUp
  /-- Reading on fails. -/
  | broken (error : Failure.IoError)
  deriving DecidableEq, Repr

/-- What the other end does next: it sends octets, and may end the connection after them. -/
structure Reply where
  octets : Bytes
  ending : Ending
  deriving DecidableEq, Repr

/-- The other end of a connection. -/
structure Peer where
  /-- Whether it takes only so many of the octets written next, and why not all, given what was
  written before. -/
  stop? : List Bytes → Bytes → Option (Nat × SocketFault)
  /-- Its reply to what was written so far, the latest last. -/
  reply : List Bytes → Reply

/-- Why no connection comes about. -/
inductive DialFault where
  | failed (error : Failure.IoError)
  | silent
  /-- There was one, but an operation that was to prepare it failed. -/
  | unusable (operation : String) (error : Failure.IoError)
  deriving DecidableEq, Repr

/-- Whom an address leads to, given all that were dialed before. -/
abbrev Network := List String → String → Except DialFault Peer

/-- A connection to a broker. What comes in is read in its order and once. -/
structure Connection where
  address : String
  peer : Peer
  /-- What was written, a frame at a time. One that could not be written whole is there in part. -/
  written : List Bytes
  /-- What has been read of all that came in. -/
  consumed : Bytes
  /-- What has come in and was not read yet. -/
  unread : Bytes
  ending : Ending

/-- Why an expected answer does not come. -/
inductive ExchangeFault where
  /-- The connection ends before the length. -/
  | ended
  /-- The connection ends within the answer. -/
  | endedWithin
  | socket (fault : SocketFault)
  | badSize (size : Int)
  deriving DecidableEq, Repr

namespace Connection

def make (address : String) (peer : Peer) : Connection :=
  ⟨address, peer, [], [], (peer.reply []).octets, (peer.reply []).ending⟩

/-- All that has come in. -/
def received (c : Connection) : Bytes := c.consumed ++ c.unread

/-- Octets are out. Nothing comes any more from an end that hung up. -/
def put (c : Connection) (octets : Bytes) : Connection :=
  let written := c.written ++ [octets]
  match c.ending with
  | .pending =>
    let reply := c.peer.reply written
    { c with written, unread := c.unread ++ reply.octets, ending := reply.ending }
  | _ => { c with written }

/-- Writes a frame, or so much of it as the other end takes. -/
def write (c : Connection) (frame : Bytes) : Except SocketFault Unit × Connection :=
  match c.peer.stop? c.written frame with
  | none => (.ok (), c.put frame)
  | some (n, fault) => (.error fault, c.put (frame.take n))

/-- What it means that octets do not come, where `atEnd` is what it means that no more will. -/
def shortage (c : Connection) (atEnd : ExchangeFault) : ExchangeFault :=
  match c.ending with
  | .pending => .socket .silent
  | .hungUp => atEnd
  | .broken e => .socket (.failed e)

/-- Reads so many octets. If they do not all come, those that did are gone. -/
def read (c : Connection) (n : Nat) (atEnd : ExchangeFault) :
    Except ExchangeFault Bytes × Connection :=
  if n ≤ c.unread.length then
    (.ok (c.unread.take n),
      { c with consumed := c.consumed ++ c.unread.take n, unread := c.unread.drop n })
  else (.error (c.shortage atEnd), { c with consumed := c.consumed ++ c.unread, unread := [] })

/-- The length in four octets. -/
def sizeOf : Bytes → Int
  | [x, y, z, w] => (Bytes.toUInt32 x y z w).toInt32.toInt
  | _ => 0

/-- Reads one frame without its length, which must lie between zero and the limit. -/
def receive (c : Connection) (limit : Nat) : Except ExchangeFault Bytes × Connection :=
  match c.read 4 .ended with
  | (.error f, c) => (.error f, c)
  | (.ok head, c) =>
    let size := sizeOf head
    if size < 0 ∨ limit < size.toNat then (.error (.badSize size), c)
    else c.read size.toNat .endedWithin

/-- Writes a frame and reads the answer to it. -/
def exchange (c : Connection) (frame : Bytes) (limit : Nat) :
    Except ExchangeFault Bytes × Connection :=
  match c.write frame with
  | (.error f, c) => (.error (.socket f), c)
  | (.ok (), c) => c.receive limit

@[simp] theorem written_put (c : Connection) (octets : Bytes) :
    (c.put octets).written = c.written ++ [octets] := by
  simp only [put]
  split <;> rfl

@[simp] theorem consumed_put (c : Connection) (octets : Bytes) :
    (c.put octets).consumed = c.consumed := by
  simp only [put]
  split <;> rfl

@[simp] theorem address_put (c : Connection) (octets : Bytes) :
    (c.put octets).address = c.address := by
  simp only [put]
  split <;> rfl

theorem received_put (c : Connection) (octets : Bytes) :
    c.received <+: (c.put octets).received := by
  simp only [put, received]
  split
  · rw [← List.append_assoc]
    exact List.prefix_append _ _
  · exact List.prefix_rfl

@[simp] theorem written_read (c : Connection) (n : Nat) (atEnd : ExchangeFault) :
    (c.read n atEnd).2.written = c.written := by
  simp only [read]
  split <;> rfl

@[simp] theorem address_read (c : Connection) (n : Nat) (atEnd : ExchangeFault) :
    (c.read n atEnd).2.address = c.address := by
  simp only [read]
  split <;> rfl

/-- Reading takes from the front of what came in, and loses none of it. -/
@[simp] theorem received_read (c : Connection) (n : Nat) (atEnd : ExchangeFault) :
    (c.read n atEnd).2.received = c.received := by
  simp only [read]
  split <;> simp [received]

end Connection

end ClusterAdmin.Wire
