import AfterSales.Events.Wire
import AfterSales.Events.Windows
import AfterSales.Lib.Utf8

/-! The event stream of a conversation, from the log to the page.

    The server sends a frame for every event that its subscription yields. The page reads the bytes
    in whatever chunks they arrive, and calls `onEvent` for every event it has not seen. A stream
    may end at any byte; the page then connects again, and names the event it has seen last.

        log ─▶ subscription ─▶ frames ─▶ bytes ─▶ chunks ─▶ text ─▶ frames ─▶ onEvent
                    ▲                                                            │
                    └───────────────────── Last-Event-ID ◀───────────────────────┘ -/

namespace AfterSales
open JsonText

/-! ### Frames, as the page reads them -/

structure SseFrame where
  id : Option String
  data : List Char

/-- A line of a frame: a field and its value. Empty lines and comments are none. -/
def parseField (line : List Char) : Option (List Char × List Char) :=
  if line = [] ∨ line.head? = some ':' then none
  else
    let value := (line.dropWhile (· ≠ ':')).tail
    some (line.takeWhile (· ≠ ':'), if value.head? = some ' ' then value.tail else value)

/-- The values of a field. -/
def fieldValues (fields : List (List Char × List Char)) (field : String) : List (List Char) :=
  (fields.filter (·.1 = field.toList)).map (·.2)

/-- `parseFrame`. -/
def parseFrame (frame : List Char) : Option SseFrame :=
  let fields := (frame.splitOn '\n').filterMap parseField
  let data := fieldValues fields "data"
  if data = [] then none
  else some ⟨(fieldValues fields "id").getLast?.map String.ofList, ['\n'].intercalate data⟩

/-! ### The page -/

inductive ConnectionState where | idle | connecting | connected | recovering
  deriving DecidableEq, Repr

/-- What the page keeps between two connections, and the calls of `onEvent` it has made. -/
structure StreamClient where
  seenEventIds : List String
  receivedSequences : List Nat
  contiguousSequence : Nat
  lastEventId : Option String
  connectionState : ConnectionState
  events : List JsonText

namespace StreamClient

def start : StreamClient := ⟨[], [], 0, none, .connecting, []⟩

/-- The loop that moves on to the last sequence before a gap. -/
def contiguousFrom (received : List Nat) : Nat → Nat → Nat
  | 0, n => n
  | fuel + 1, n => if n + 1 ∈ received then contiguousFrom received fuel (n + 1) else n

/-- `handleFrame`. -/
def handleFrame (c : StreamClient) (frame : SseFrame) : StreamClient :=
  match parse frame.data with
  | none => c
  | some parsed =>
    match parsed.get "event_id" with
    | some (.str eventId) =>
      if eventId = "" ∨ eventId ∈ c.seenEventIds then c
      else
        let sequence := (parsed.get "sequence").bind JsonText.nat?
        let received := c.receivedSequences ++ sequence.toList
        { seenEventIds := c.seenEventIds ++ [eventId]
          receivedSequences := received
          contiguousSequence := contiguousFrom received received.length c.contiguousSequence
          lastEventId := some (frame.id.getD eventId)
          connectionState :=
            if sequence.any fun n => c.contiguousSequence + 1 < n then .recovering else .connected
          events := c.events ++ [parsed] }
    | _ => c

/-- The page between two connections. -/
def waiting (c : StreamClient) : StreamClient :=
  { c with
    connectionState :=
      if (c.lastEventId.filter (· ≠ "")).isSome then .recovering else .connecting }

end StreamClient

/-- What the page keeps while it reads a response. A byte order mark is dropped at its start. -/
structure StreamReader where
  decoder : Utf8.Decoder
  fresh : Bool
  buffer : List Char

namespace StreamReader

def start : StreamReader := ⟨.start, true, []⟩

/-- `replace(/\r\n/g, "\n")`. -/
def unifyBreaks : List Char → List Char
  | '\r' :: '\n' :: text => '\n' :: unifyBreaks text
  | c :: text => c :: unifyBreaks text
  | [] => []

/-- The text of a response, without a byte order mark at its start. -/
def dropMark (fresh : Bool) (text : List Char) : List Char :=
  if fresh ∧ text.head? = some '\uFEFF' then text.tail else text

/-- Decoded text is appended to the buffer, and the frames that it ends are cut off. -/
def append (r : StreamReader) (text : List Char) : StreamReader × List SseFrame :=
  let parts := Frames.frames '\n' (r.buffer ++ unifyBreaks (dropMark r.fresh text))
  ({ r with
      fresh := r.fresh && text.isEmpty
      buffer := parts.2 }, parts.1.filterMap parseFrame)

/-- A chunk of the response. -/
def read (r : StreamReader) (chunk : List UInt8) : StreamReader × List SseFrame :=
  let decoded := r.decoder.decode chunk
  { r with decoder := decoded.1 }.append decoded.2

/-- The end of the response. -/
def finish (r : StreamReader) : List SseFrame := (r.append r.decoder.flush).2

end StreamReader

/-! ### Page and server -/

/-- A response: its subscription while the server has not ended it, and the bytes under way. -/
structure StreamLink where
  queue : Option Nat
  wire : List UInt8
  reader : StreamReader

structure StreamWorld where
  store : EventStore JsonText
  client : StreamClient
  link : Option StreamLink

namespace StreamWorld

variable [EventPayload JsonText] [TimestampText]

/-- What happens between the log and the page of one conversation, in any order. -/
inductive Step (conversationId : String) (w : StreamWorld) : StreamWorld → Prop where
  /-- Anything else at the store: appends, other subscribers, other pages. -/
  | store {s : EventStore JsonText} (step : EventStore.Step w.store s)
      (named : ∀ e ∈ s.tables.rows, StreamId e.eventId)
      (apart : ∀ link ∈ w.link, ∀ q ∈ link.queue, s.subscriptions q = w.store.subscriptions q) :
      Step conversationId w { w with store := s }
  /-- The subscription goes on, and what it yields is sent. -/
  | send {link : StreamLink} {q : Nat} {s : EventStore JsonText} {sub sub' : Subscription JsonText}
      (connected : w.link = some link) (served : link.queue = some q)
      (advance : w.store.advance q = some s) (before : w.store.subscriptions q = some sub)
      (after : s.subscriptions q = some sub') :
      Step conversationId w { w with
        store := s
        link := some { link with
          wire := link.wire ++
            Utf8.encode ((sub'.received.drop sub.received.length).flatMap sseEvent) } }
  /-- The server ends the response. -/
  | close {link : StreamLink} {q : Nat} {sub : Subscription JsonText}
      (connected : w.link = some link) (served : link.queue = some q)
      (before : w.store.subscriptions q = some sub) :
      Step conversationId w
        { w with
          store := w.store.unsubscribe q sub
          link := some { link with queue := none } }
  | restart : Step conversationId w
      { w with
        store := .opened w.store.tables
        link := w.link.map ({ · with queue := none }) }
  /-- The page connects, and is answered or refused. -/
  | connect {after : Nat} (apart : w.link = none)
      (cursor : w.store.tables.afterSequence conversationId w.client.lastEventId = .ok after) :
      Step conversationId w
        { store := w.store.subscribe conversationId after
          client := { w.client with connectionState := .connected }
          link := some ⟨some w.store.nextQueue, [], .start⟩ }
  | refuse {e : EventTables.ReplayError} (apart : w.link = none)
      (cursor : w.store.tables.afterSequence conversationId w.client.lastEventId = .error e) :
      Step conversationId w { w with client := w.client.waiting }
  /-- A chunk arrives. -/
  | read {link : StreamLink} {chunk rest : List UInt8} (connected : w.link = some link)
      (arrives : link.wire = chunk ++ rest) :
      Step conversationId w { w with
        client := (link.reader.read chunk).2.foldl .handleFrame w.client
        link := some { link with
          wire := rest
          reader := (link.reader.read chunk).1 } }
  /-- The response ends where it is, or breaks. -/
  | finish {link : StreamLink} (connected : w.link = some link) :
      Step conversationId w { w with
        client := (link.reader.finish.foldl .handleFrame w.client).waiting
        link := none }
  | break_ {link : StreamLink} (connected : w.link = some link) :
      Step conversationId w { w with
        client := w.client.waiting
        link := none }

/-- The states of a page that was opened at any time. -/
inductive Reachable (conversationId : String) : StreamWorld → Prop where
  | open_ {s : EventStore JsonText} (reachable : s.Reachable)
      (named : ∀ e ∈ s.tables.rows, StreamId e.eventId) :
      Reachable conversationId ⟨s, .start, none⟩
  | step {w w' : StreamWorld} (h : Reachable conversationId w)
      (hstep : Step conversationId w w') : Reachable conversationId w'

end StreamWorld

end AfterSales
