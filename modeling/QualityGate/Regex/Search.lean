import QualityGate.Regex.Program

/-!
# Searching

All ways through a program are followed at once, one character at a time.  A *thread* is an
instruction with the positions it remembers; the threads at one position are ordered by preference
and no instruction stands twice among them, because only the preferred way to it can matter.  The
work at a position is therefore bounded by the size of the program.

The match that is found starts as far left as possible, and among those it is the one that ordered
choice prefers, not the longest.

Positions count characters of the text that is searched.
-/

namespace QualityGate.Regex

/-- Positions that a thread remembers: two for each group. -/
abbrev Slots := Array (Option Nat)

/-- An instruction and the positions remembered on the way to it. -/
structure Thread where
  pc : Nat
  slots : Slots

/-- Where a search stands: the character before, the position, and the text after. -/
structure Place where
  before : Option Char
  position : Nat
  rest : List Char

namespace Place

/-- The start of a text. -/
def start (text : List Char) : Place := ⟨none, 0, text⟩

/-- The place one character later; at the end there is none. -/
def next? (place : Place) : Option Place :=
  match place.rest with
  | [] => none
  | c :: rest => some ⟨some c, place.position + 1, rest⟩

/-- The place `n` characters later, or the end of the text. -/
def advance : Nat → Place → Place
  | 0, place => place
  | n + 1, place =>
    match place.next? with
    | some place => advance n place
    | none => place

end Place

/-- Whether a condition holds between two characters. -/
def Look.holds (word : Unicode.CharSet) (before after : Option Char) : Look → Bool
  | .textStart => before.isNone
  | .textEnd => after.isNone
  | .lineStart => before.isNone || before == some '\n'
  | .lineEnd => after.isNone || after == some '\n'
  | .lineStartCrlf =>
    before.isNone || before == some '\n' || (before == some '\r' && after != some '\n')
  | .lineEndCrlf =>
    after.isNone || after == some '\r' || (after == some '\n' && before != some '\r')
  | .wordBoundary => before.any word.contains != after.any word.contains
  | .notWordBoundary => before.any word.contains == after.any word.contains
  | .wordStart => !before.any word.contains && after.any word.contains
  | .wordEnd => before.any word.contains && !after.any word.contains
  | .wordStartHalf => !before.any word.contains
  | .wordEndHalf => !after.any word.contains

/-- The threads at one position, the preferred ones first in order of arrival, and the instructions
that have been reached. -/
structure Front where
  threads : Array Thread
  reached : Array Bool

/-- No threads. -/
def Front.empty (program : Program) : Front :=
  { threads := #[], reached := Array.replicate program.code.size false }

/-- Follow threads through all instructions that take no character.  An instruction is followed
once, so `2 * size + 2` steps are enough. -/
def Front.follow (program : Program) (place : Place) : Nat → List Thread → Front → Front
  | 0, _, front => front
  | _, [], front => front
  | fuel + 1, thread :: stack, front =>
    if front.reached.getD thread.pc true then follow program place fuel stack front
    else
      let front := { front with reached := front.reached.setIfInBounds thread.pc true }
      match program.code.getD thread.pc .accept with
      | .accept | .char _ _ =>
        follow program place fuel stack { front with threads := front.threads.push thread }
      | .split first second =>
        follow program place fuel
          ({ thread with pc := first } :: { thread with pc := second } :: stack) front
      | .save slot next =>
        let slots := thread.slots.setIfInBounds slot (some place.position)
        follow program place fuel ({ pc := next, slots := slots } :: stack) front
      | .look kind word next =>
        if kind.holds word place.before place.rest.head? then
          follow program place fuel ({ thread with pc := next } :: stack) front
        else follow program place fuel stack front

/-- Add a thread with everything it leads to. -/
def Front.add (program : Program) (place : Place) (thread : Thread) (front : Front) : Front :=
  front.follow program place (2 * program.code.size + 2) [thread]

/-- Let the threads take a character that leads to `place`.  A thread whose match is complete ends
the less preferred ones; its positions are returned. -/
def advanceThreads (program : Program) (c : Char) (place : Place) :
    List Thread → Front → Front × Option Slots
  | [], front => (front, none)
  | thread :: threads, front =>
    match program.code.getD thread.pc .accept with
    | .accept => (front, some thread.slots)
    | .char chars next =>
      let front :=
        if chars.contains c then front.add program place { thread with pc := next } else front
      advanceThreads program c place threads front
    | _ => advanceThreads program c place threads front

/-- The positions of the first thread whose match is complete. -/
def accepted? (program : Program) (threads : List Thread) : Option Slots :=
  (threads.find? fun thread =>
    match program.code.getD thread.pc .accept with
    | .accept => true
    | _ => false).map Thread.slots

/-- Search from a place on.  A new thread is started at every position until a match is found. -/
def searchFrom (program : Program) (before : Option Char) (position : Nat) (front : Front)
    (best : Option Slots) : List Char → Option Slots
  | [] =>
    let place : Place := ⟨before, position, []⟩
    let front := if best.isNone then
      front.add program place ⟨program.start, Array.replicate (2 * program.groups) none⟩ else front
    (accepted? program front.threads.toList).or best
  | c :: rest =>
    let place : Place := ⟨before, position, c :: rest⟩
    let front := if best.isNone then
      front.add program place ⟨program.start, Array.replicate (2 * program.groups) none⟩ else front
    let after : Place := ⟨some c, position + 1, rest⟩
    let (next, found) := advanceThreads program c after front.threads.toList (.empty program)
    let best := found.or best
    if next.threads.isEmpty && best.isSome then best
    else searchFrom program (some c) (position + 1) next best rest

/-- The first match at or after a place. -/
def Program.search (program : Program) (place : Place) : Option Slots :=
  searchFrom program place.before place.position (.empty program) none place.rest

end QualityGate.Regex
