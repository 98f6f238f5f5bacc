import RangeFetch.Chunk.Basic

namespace RangeFetch

inductive Mailbox where
  | waiting
  | holding (result : Completion)
  | emptied
  deriving DecidableEq

namespace Mailbox

/-- The result if there is one. An emptied box will never have another. -/
def take : Mailbox → Option Completion × Mailbox
  | waiting => (none, waiting)
  | holding result => (some result, emptied)
  | emptied => (some (.failed .abandoned), emptied)

end Mailbox

inductive SignalKind where
  | channel
  | callback
  deriving DecidableEq

structure Handover where
  chunk : Option Chunk
  kind : SignalKind
  mailbox : Option Mailbox
  resultTaken : Bool
  deriving DecidableEq

namespace Handover

inductive Operation where
  | clamp (fileSize : Nat)
  | write (bytes : Bytes)
  | complete
  | fail (error : ChunkError)
  | drop
  | tryResult
  | poll
  | wait
  | dropReceiver

inductive Answer where
  | done
  | taken (count : Nat)
  | result (completion : Completion)
  | pending
  | noReceiver
  | notApplicable
  deriving DecidableEq

def deliver (h : Handover) (f : Firing) : Handover × List Firing :=
  match h.kind with
  | .callback => ({ h with chunk := none }, [f])
  | .channel =>
    ({ h with chunk := none, mailbox := h.mailbox.map fun _ => .holding f.result }, [])

/-- The two sides before anything happens, or, for a range that is backwards, after the refusal. -/
def start (kind : SignalKind) (start limit : Nat) : Handover × List Firing :=
  let fresh : Handover := ⟨none, kind, if kind = .channel then some .waiting else none, false⟩
  match Chunk.request 0 start limit with
  | .ok c => ({ fresh with chunk := some c }, [])
  | .error f => fresh.deliver f

def finish (h : Handover) (fire : Chunk → Firing) : Answer × Handover × List Firing :=
  match h.chunk with
  | none => (.notApplicable, h, [])
  | some c => (.done, h.deliver (fire c))

/-- Looks for the result; `keeps` tells whether the receiver is still there after it. -/
def look (h : Handover) (keeps : Bool) : Answer × Handover :=
  match h.mailbox with
  | none => (.noReceiver, h)
  | some box =>
    match box.take with
    | (none, _) => (.pending, h)
    | (some r, box') =>
      if keeps then (.result r, { h with mailbox := some box', resultTaken := true })
      else (.result r, { h with mailbox := none })

def step (h : Handover) : Operation → Answer × Handover × List Firing
  | .clamp fileSize =>
    match h.chunk with
    | none => (.notApplicable, h, [])
    | some c => (.done, { h with chunk := some (c.clampTo fileSize) }, [])
  | .write bytes =>
    match h.chunk with
    | none => (.notApplicable, h, [])
    | some c => (.taken (c.accepts bytes), { h with chunk := some (c.write bytes) }, [])
  | .complete => h.finish Chunk.complete
  | .fail e => h.finish (·.fail e)
  | .drop => h.finish Chunk.abandon
  | .tryResult => let (a, h') := h.look true; (a, h', [])
  | .poll =>
    if h.resultTaken then (.notApplicable, h, [])
    else let (a, h') := h.look false; (a, h', [])
  | .wait =>
    if h.resultTaken || h.chunk.isSome then (.notApplicable, h, [])
    else let (a, h') := h.look false; (a, h', [])
  | .dropReceiver => (.done, { h with mailbox := none }, [])

end Handover

end RangeFetch
