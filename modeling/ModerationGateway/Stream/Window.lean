/-!
# The window over the answer

A checker sees the newest part of the answer. Before the first check is complete the window grows
and any text makes a check due; afterwards it keeps the newest characters only, and a check is due
whenever it is full.

* `Window`, `Window.ofSize`: the text, its length, and what is not checked yet;
* `add`, `isDue`: text arriving, and whether it makes a check due;
* `markChecked`, `completeFirstCheck`: what a check does to the window.
-/

namespace ModerationGateway.Stream

/-- The newest part of the answer. -/
structure Window where
  /-- The characters in the window. -/
  text : List Char
  /-- Their number. -/
  length : Nat
  /-- How many characters are kept after the first check. -/
  size : Nat
  /-- The first check is complete. -/
  isSteady : Bool
  /-- How many of the characters arrived since the last check. -/
  unchecked : Nat
  deriving DecidableEq, Repr

namespace Window

/-- The empty window. It keeps at least one character. -/
def ofSize (size : Nat) : Window := ⟨[], 0, max size 1, false, 0⟩

/-- Nothing has arrived. -/
def isEmpty (w : Window) : Bool := w.length == 0

/-- Some text arrived since the last check. -/
def hasUnchecked (w : Window) : Bool := 0 < w.unchecked

/-- Keep the newest characters only. -/
def shrink (w : Window) : Window :=
  if w.length ≤ w.size then w
  else
    { w with
      text := w.text.drop (w.length - w.size)
      length := w.size
      unchecked := min w.unchecked w.size }

/-- The window with some characters more. -/
def extend (w : Window) (added : List Char) : Window :=
  { w with
    text := w.text ++ added
    length := w.length + added.length
    unchecked := w.unchecked + added.length }

/-- Take in text. The flag says whether a check is due; no text never makes one due. -/
def add (w : Window) (added : List Char) : Window × Bool :=
  if added.isEmpty then (w, false)
  else
    let grown := w.extend added
    if w.isSteady then
      let kept := grown.shrink
      (kept, kept.size ≤ kept.length)
    else (grown, 0 < grown.length)

/-- Everything in the window has been seen by a checker. -/
def markChecked (w : Window) : Window := { w with unchecked := 0 }

/-- The first check is complete; later calls change nothing. -/
def completeFirstCheck (w : Window) : Window :=
  if w.isSteady then w else shrink { w with isSteady := true }

@[simp] theorem add_nil (w : Window) : w.add [] = (w, false) := rfl

@[simp] theorem size_shrink (w : Window) : w.shrink.size = w.size := by
  unfold shrink; split <;> rfl

@[simp] theorem size_completeFirstCheck (w : Window) : w.completeFirstCheck.size = w.size := by
  unfold completeFirstCheck; split <;> simp

@[simp] theorem text_markChecked (w : Window) : w.markChecked.text = w.text := rfl

@[simp] theorem hasUnchecked_markChecked (w : Window) : w.markChecked.hasUnchecked = false := rfl

end Window

end ModerationGateway.Stream
