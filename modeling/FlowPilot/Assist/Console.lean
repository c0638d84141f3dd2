import FlowPilot.Text.Search

/-!
# The operator's console

Lines come in as bytes and may be no text; writing may fail at any time.

## Main definitions

* `Console`: the lines to come, what was written, and which writes fail.
* `Console.linesOf`: the lines of a stream of bytes.
-/

namespace FlowPilot

/-- The lines to come, what was written, and which writes fail. -/
structure Console where
  /-- the lines to come; one that is no text is `none` -/
  unread : List (Option String)
  /-- what was written, oldest first -/
  written : List String := []
  /-- how often writing was tried -/
  writes : Nat := 0
  /-- whether the write with a number fails -/
  jams : Nat → Bool := fun _ => false

namespace Console

/-- Cuts bytes behind every line feed. A rest without a line feed is a line too. -/
def cutLines : List UInt8 → List (List UInt8)
  | [] => []
  | b :: rest =>
    -- A line feed ends a line; it starts none, so one at the end adds nothing.
    if b = 0x0A then [] :: cutLines rest
    else
      match cutLines rest with
      | [] => [[b]]
      | line :: lines => (b :: line) :: lines

def linesOf (bytes : List UInt8) : List (Option String) :=
  (cutLines bytes).map fun line => String.fromUTF8? ⟨line.toArray⟩

end Console

end FlowPilot
