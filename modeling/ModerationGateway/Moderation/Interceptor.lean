import ModerationGateway.Fault
import ModerationGateway.Moderation.Release
import ModerationGateway.Stream.Arrival
import ModerationGateway.Stream.Room

/-!
# Moderating a stream

The interceptor stands between a stream of chunks and the client. It pulls chunks only when it has
nothing to hand out, and after a refusal it pulls no more.

* `Interceptor`: the state between two items handed out;
* `attach?`: the state for a new request, if room for its batches can be had;
* `onChunk`, `onEnd`: a chunk comes, the stream ends;
* `next`: the next item for the client, and what is left of the stream;
* `drain`: all items of a stream.
-/

namespace ModerationGateway.Moderation

open ModerationGateway.Stream

/-- The state of a moderated stream. -/
structure Interceptor where
  assembler : Assembler
  batcher : Batcher
  request : Request
  /-- What waits to be handed out. -/
  queue : List Bytes
  /-- Nothing more is pulled. -/
  isDone : Bool
  /-- A refusal has yet to be reported. -/
  isArmed : Bool
  /-- How often a refusal was reported. -/
  reports : Nat
  deriving DecidableEq, Repr

namespace Interceptor

/-- The state before the first chunk, for a request that is in flight. -/
def ofRequest (c : ContentSecurity) (q : Request) : Interceptor :=
  ⟨.empty, .ofSize c.batchSize.toNat, q, [], false, true, 0⟩

/-- A request that has come under moderation. -/
structure Attached where
  registry : InFlight
  interceptor : Interceptor
  /-- How many frames there is room for. -/
  room : Nat
  deriving DecidableEq, Repr

/-- The batcher with its room. -/
def Attached.batches (a : Attached) : Reserved := ⟨a.interceptor.batcher, a.room⟩

/-- Enter a request and make its state, if room for its batches can be had. -/
def attach? (c : ContentSecurity) (r : InFlight) (rule : String) : Option Attached := do
  let (registry, request) := Request.start r rule c.windowSize.toNat
  let batches ← Reserved.ofSize? c.batchSize.toNat
  some ⟨registry, { ofRequest c request with batcher := batches.batcher }, batches.room⟩

/-- Report a refusal, once. -/
def report (p : Interceptor) : Interceptor :=
  if p.request.isBlocked && p.isArmed then { p with isArmed := false, reports := p.reports + 1 }
  else p

/-- Take over what a decision released. -/
def takeOver (p : Interceptor) (r : Request × List Bytes) : Interceptor :=
  report { p with request := r.1, queue := p.queue ++ r.2 }

/-- Decide on the batches that some frames fill. The rest of the frames is dropped after a
refusal. -/
def onFrames (c : ContentSecurity) (p : Interceptor) : List Frame → Consult Interceptor
  | [] => .done p
  | frame :: frames =>
    match p.batcher.push frame with
    | (batcher, none) => onFrames c { p with batcher } frames
    | (batcher, some batch) => do
      let p := takeOver { p with batcher } (← submit c p.request batch)
      if p.request.isBlocked then .done { p with isDone := true } else onFrames c p frames

/-- A chunk comes. -/
def onChunk (c : ContentSecurity) (p : Interceptor) (chunk : Bytes) : Consult Interceptor :=
  let (assembler, frames) := p.assembler.feed chunk
  onFrames c { p with assembler } frames

/-- Release what waits for a full batch, then the bytes that belong to no frame. -/
def onLast (c : ContentSecurity) (p : Interceptor) (trailing : Bytes) : Consult Interceptor := do
  let (batcher, last) := p.batcher.finish
  let p := takeOver { p with batcher } (← close c p.request last)
  if p.request.isBlocked || trailing.isEmpty then .done p
  else .done { p with queue := p.queue ++ [trailing] }

/-- The stream ends. -/
def onEnd (c : ContentSecurity) (p : Interceptor) : Consult Interceptor := do
  let (assembler, flush) := p.assembler.finish
  let p := { p with assembler, isDone := true }
  let p ← onFrames c p flush.frame.toList
  if p.request.isBlocked then .done p else onLast c p flush.trailing

/-- An item for the client. -/
abbrev Item := Except Fault Bytes

/-- Hand out what waits first, if anything does. -/
def pop (p : Interceptor) : Option Item × Interceptor :=
  match p.queue with
  | [] => (none, p)
  | bytes :: queue => (some (.ok bytes), { p with queue })

/-- The next item, if there is one, and what is left of the stream. -/
def next (c : ContentSecurity) (p : Interceptor) :
    List Arrival → Consult (Option Item × Interceptor × List Arrival)
  | [] =>
    if p.queue.isEmpty && !p.isDone then do
      let (item, p) := (← onEnd c p).pop
      .done (item, p, [])
    else
      let (item, p) := p.pop
      .done (item, p, [])
  | arrival :: rest =>
    if p.queue.isEmpty && !p.isDone then
      match arrival with
      | .chunk bytes => do next c (← onChunk c p bytes) rest
      | .failed message => .done (some (.error (.backend message)), { p with isDone := true }, rest)
    else
      let (item, p) := p.pop
      .done (item, p, arrival :: rest)

/-- Hand out all that waits. -/
def popAll (p : Interceptor) : List Item × Interceptor :=
  (p.queue.map .ok, { p with queue := [] })

/-- All items of a stream, for a client that takes every one of them. -/
def drain (c : ContentSecurity) (p : Interceptor) :
    List Arrival → Consult (List Item × Interceptor)
  | [] =>
    let (items, p) := p.popAll
    if p.isDone then .done (items, p)
    else do
      let (last, p) := (← onEnd c p).popAll
      .done (items ++ last, p)
  | arrival :: rest =>
    let (items, p) := p.popAll
    if p.isDone then .done (items, p)
    else
      match arrival with
      | .failed message => .done (items ++ [.error (.backend message)], { p with isDone := true })
      | .chunk bytes => do
        let (more, p) ← drain c (← onChunk c p bytes) rest
        .done (items ++ more, p)

end Interceptor

end ModerationGateway.Moderation
