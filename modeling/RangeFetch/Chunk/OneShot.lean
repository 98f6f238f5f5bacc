import RangeFetch.Chunk.Handover

/-!
A chunk whose signal leads through a channel to a receiver. A channel takes one value and hands it
over once. The signal owns the sending end until it is fired or goes out of scope. Both sides act on
their own, in any order.
-/

namespace RangeFetch

open Handover (Answer)

inductive Receiver where
  | held
  | waiting
  | finished
  | gone
  deriving DecidableEq

structure Channel where
  /-- The sending end is there and nothing has been sent. -/
  canSend : Bool
  value : Option Completion
  receiver : Receiver
  deriving DecidableEq

namespace Channel

def fresh : Channel := ⟨true, none, .held⟩

/-- Uses the sending end up. Without a receiver the value is lost. -/
def send (ch : Channel) (value : Completion) : Channel :=
  { ch with canSend := false, value := if ch.receiver = .gone then none else some value }

/-- Looks for the value; `after` is where the receiver is when there is something to receive. A
channel that has no value and cannot get one is closed. -/
def receive (ch : Channel) (after : Receiver) : Answer × Channel :=
  match ch.value with
  | some value => (.result value, { ch with value := none, receiver := after })
  | none =>
    if ch.canSend then (.pending, ch)
    else (.result (.failed .abandoned), { ch with receiver := after })

inductive Observation where
  | tryResult
  /-- Look once; not to be done again when there was something. -/
  | poll
  | wait
  | wake
  | drop
  deriving DecidableEq

/-- What cannot be done changes nothing. -/
def observe (ch : Channel) (act : Observation) : Answer × Channel :=
  match act, ch.receiver with
  | .tryResult, .held => ch.receive .finished
  | .tryResult, .finished => ch.receive .finished
  | .poll, .held => ch.receive .finished
  | .poll, .finished => (.notApplicable, ch)
  | .wait, .held => { ch with receiver := .waiting }.receive .gone
  | .wait, .finished => (.notApplicable, ch)
  | .wake, .waiting => ch.receive .gone
  | .drop, .held => (.done, { ch with value := none, receiver := .gone })
  | .drop, .finished => (.done, { ch with value := none, receiver := .gone })
  | _, _ => (.noReceiver, ch)

end Channel

/-- A signal has its callback until it is called. The callback sends what it is called with. -/
structure CompletionSignal where
  callback : Bool
  deriving DecidableEq

namespace CompletionSignal

def call (s : CompletionSignal) (result : Completion) (ch : Channel) : CompletionSignal × Channel :=
  if s.callback then (⟨false⟩, ch.send result) else (s, ch)

def drop (s : CompletionSignal) (ch : Channel) : Channel := (s.call (.failed .abandoned) ch).2

/-- Firing uses the signal up, so at its end the signal goes out of scope. -/
def fire (s : CompletionSignal) (result : Completion) (ch : Channel) : Channel :=
  let (s', ch') := s.call result ch
  s'.drop ch'

end CompletionSignal

inductive Chunk.Work where
  | clamp (fileSize : Nat)
  | write (bytes : Bytes)
  | complete
  | fail (error : ChunkError)
  | drop

/-- A chunk and its channel, with what both sides have done so far and been answered. -/
structure OneShot where
  chunk : Option (Chunk × CompletionSignal)
  channel : Channel
  worked : List (Chunk.Work × Answer)
  observed : List (Channel.Observation × Answer)

namespace OneShot

/-- A new chunk and the receiver of its result. A range that is backwards is refused, and the signal
fired. -/
def new (start limit : Nat) : OneShot :=
  let signal : CompletionSignal := ⟨true⟩
  match Chunk.request 0 start limit with
  | .ok c => ⟨some (c, signal), .fresh, [], []⟩
  | .error refused => ⟨none, signal.fire refused.result .fresh, [], []⟩

def work (s : OneShot) (act : Chunk.Work) : Answer × Option (Chunk × CompletionSignal) × Channel :=
  match s.chunk with
  | none => (.notApplicable, none, s.channel)
  | some (c, signal) =>
    match act with
    | .clamp fileSize => (.done, some (c.clampTo fileSize, signal), s.channel)
    | .write bytes => (.taken (c.accepts bytes), some (c.write bytes, signal), s.channel)
    | .complete => (.done, none, signal.fire c.complete.result s.channel)
    | .fail e => (.done, none, signal.fire (c.fail e).result s.channel)
    | .drop => (.done, none, signal.drop s.channel)

inductive Act where
  | work (act : Chunk.Work)
  | observe (act : Channel.Observation)

def Act.work? : Act → Option Chunk.Work
  | work act => some act
  | observe _ => none

def Act.observation? : Act → Option Channel.Observation
  | work _ => none
  | observe act => some act

def step (s : OneShot) : Act → OneShot
  | .work act =>
    let (answer, chunk, channel) := s.work act
    { s with chunk := chunk, channel := channel, worked := s.worked ++ [(act, answer)] }
  | .observe act =>
    let (answer, channel) := s.channel.observe act
    { s with channel := channel, observed := s.observed ++ [(act, answer)] }

def run (s : OneShot) : List Act → OneShot
  | [] => s
  | x :: rest => (s.step x).run rest

def told : Answer → Option Completion
  | .result r => some r
  | _ => none

def seen (s : OneShot) : List Completion := s.observed.filterMap fun x => told x.2

def written (worked : List (Chunk.Work × Answer)) : Bytes :=
  worked.flatMap fun
    | (.write bytes, .taken count) => bytes.take count
    | _ => []

def firedBy (offset : Nat) (data : Bytes) : Chunk.Work × Answer → Option Completion
  | (.complete, _) => some (.served ⟨offset, data⟩)
  | (.fail e, _) => some (.failed e)
  | (.drop, _) => some (.failed .abandoned)
  | _ => none

def fate (start limit : Nat) (worked : List (Chunk.Work × Answer)) : Option Completion :=
  if limit < start then some (.failed (.invalidRange start limit))
  else worked.findSome? (firedBy start (written worked))

/-- What a look is to be answered: nothing yet, then what was fired with, once. -/
def due (fired : Option Completion) (seen : List Completion) : Answer :=
  match fired, seen with
  | none, _ => .pending
  | some r, [] => .result r
  | some _, _ :: _ => .result (.failed .abandoned)

end OneShot

namespace Handover

def Operation.work? : Operation → Option Chunk.Work
  | clamp fileSize => some (.clamp fileSize)
  | write bytes => some (.write bytes)
  | complete => some .complete
  | fail e => some (.fail e)
  | drop => some .drop
  | _ => none

/-- What the receiver's side does in an operation. After a poll that gives the result the receiver
is let go. A wait is not begun while the chunk is there. -/
def asks (h : Handover) : Operation → List Channel.Observation
  | .tryResult => [.tryResult]
  | .poll =>
    match h.mailbox with
    | some (.holding _) => [.poll, .drop]
    | _ => [.poll]
  | .wait => if h.chunk.isSome then [] else [.wait]
  | .dropReceiver => [.drop]
  | _ => []

def actsOf (h : Handover) (x : Operation) : List OneShot.Act :=
  match x.work? with
  | some act => [.work act]
  | none => (h.asks x).map .observe

def acts (h : Handover) : List Operation → List OneShot.Act
  | [] => []
  | x :: rest => h.actsOf x ++ (h.step x).2.1.acts rest

def answers (h : Handover) : List Operation → List (Operation × Answer)
  | [] => []
  | x :: rest => (x, (h.step x).1) :: (h.step x).2.1.answers rest

def worked (answers : List (Operation × Answer)) : List (Chunk.Work × Answer) :=
  answers.filterMap fun x => x.1.work?.map fun act => (act, x.2)

def Answer.isLook : Answer → Bool
  | pending => true
  | result _ => true
  | _ => false

end Handover

def OneShot.looked (s : OneShot) : List Answer := (s.observed.map (·.2)).filter (·.isLook)

end RangeFetch
