import BytecodeLint.Text.Blank
import BytecodeLint.Text.Digits

/-!
# Spans of characters

A property of characters is a table of spans: the numbers of a first and a last character, and a
value that holds from one to the other. The spans ascend and do not overlap, so a character is found
by halving the table.

A table is written as lines of words `first-last=value`, with numbers in hexadecimal digits. A span
of one character leaves out `-last`, and a table that only tells members from others leaves out
`=value`.
-/

namespace BytecodeLint.Unicode

/-- Characters that share a value. -/
structure Span (α : Type) where
  first : Nat
  last : Nat
  value : α
  deriving Repr

namespace Span

/-- Reads the bounds of a span. -/
def bounds? (cs : List Char) : Option (Nat × Nat) :=
  match Text.splitOnce '-' cs with
  | some (first, last) => do some (← Text.ofDigits? 16 first, ← Text.ofDigits? 16 last)
  | none => (Text.ofDigits? 16 cs).map fun n => (n, n)

/-- Reads a span, given how a value is read. -/
def ofWord? {α : Type} (value? : List Char → Option α) (word : List Char) : Option (Span α) := do
  let (range, value) := (Text.splitOnce '=' word).getD (word, [])
  let (first, last) ← bounds? range
  some ⟨first, last, ← value? value⟩

def ofLines {α : Type} (value? : List Char → Option α) (lines : List String) : Array (Span α) :=
  (lines.flatMap fun line => (Text.words line.toList).filterMap (ofWord? value?)).toArray

/-- How many of the spans from `low` up to `high` start at or before a number, and `low`. -/
def countUpTo {α : Type} (spans : Array (Span α)) (n low high : Nat) : Nat :=
  if low < high then
    let middle := (low + high) / 2
    match spans[middle]? with
    | some span =>
      if span.first ≤ n then countUpTo spans n (middle + 1) high else countUpTo spans n low middle
    | none => low
  else low
  termination_by high - low

def find? {α : Type} (spans : Array (Span α)) (n : Nat) : Option (Span α) :=
  match countUpTo spans n 0 spans.size with
  | 0 => none
  | i + 1 => spans[i]?.filter fun span => n ≤ span.last

def get? {α : Type} (spans : Array (Span α)) (n : Nat) : Option α := (find? spans n).map Span.value

def contains {α : Type} (spans : Array (Span α)) (n : Nat) : Bool := (find? spans n).isSome

end Span

end BytecodeLint.Unicode
