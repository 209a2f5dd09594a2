import ModerationGateway.Text.Utf8

/-!
# Arrivals

* `Arrival`: what comes over a connection, a piece at a time;
* `collect`: the whole, if all of it comes.
-/

namespace ModerationGateway.Stream

/-- What comes from the other side: a chunk, or the news that there will be none. -/
inductive Arrival where
  | chunk (bytes : Bytes)
  | failed (message : String)
  deriving DecidableEq, Repr

namespace Arrival

/-- The bytes of all chunks, or the news that some are missing. -/
def collect : List Arrival → Except String Bytes
  | [] => .ok []
  | .failed message :: _ => .error message
  | .chunk bytes :: rest => (collect rest).map (bytes ++ ·)

/-- The bytes that come. -/
def received (arrivals : List Arrival) : Bytes :=
  arrivals.flatMap fun
    | .chunk bytes => bytes
    | .failed _ => []

@[simp] theorem collect_chunk (bytes : Bytes) : collect [.chunk bytes] = .ok bytes := by
  simp [collect, Except.map]

end Arrival

end ModerationGateway.Stream
